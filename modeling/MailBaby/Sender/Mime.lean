import MailBaby.Lib.Mime
import MailBaby.Sender.Email

/-!
# Building a MIME message

`BuildMIME` writes the header and the parts of an email into one buffer. Nested multipart writers
write through their parents into the same buffer, so all of them are functions on its text. Writes to
a buffer do not fail; the errors that the source passes on for them are left out.
-/

namespace MailBaby

open Lib Lib.Mime

/-! ### Header values -/

/-- A printable ASCII character other than the colon. -/
def isFieldNameChar (c : Char) : Bool :=
  (0x21 ≤ c.toNat && c.toNat ≤ 0x39) || (0x3B ≤ c.toNat && c.toNat ≤ 0x7E)

def validHeaderFieldName (s : Text) : Bool := !s.isEmpty && s.all isFieldNameChar

def sanitizeHeaderValue (v : Text) : Text :=
  if hasBreak v then v.filter fun c => !isBreak c else v

def encodeHeader (s : Text) : Text :=
  if s.all fun c => !(127 < c.toNat || (c.toNat < 32 && c ≠ '\t')) then s else EncodedWord.encode s

def formatAddress (name address : Text) : Text :=
  if name = [] then address else encodeHeader name ++ (' ' :: '<' :: (address ++ ['>']))

def quoteText (t : Text) : Text := (quote (String.ofList t)).toList

/-! ### Content -/

def lineLen : Nat := 76

/-- Lines of `lineLen` characters, each with its line break. -/
def breakLines (encoded : Text) : Text :=
  (List.range ((encoded.length + (lineLen - 1)) / lineLen)).flatMap fun i =>
    (encoded.drop (i * lineLen)).take lineLen ++ crlf

def wrapBase64 (data : Bytes) : Text :=
  let encoded := Base64.encode data
  if encoded.length ≤ lineLen then encoded else (breakLines encoded).rdropWhile isBreak

/-! ### Multipart writers -/

/-- The header of a part. The writer puts the fields in the order of their canonical names. -/
structure PartHeader where
  contentType : Text
  contentTransferEncoding : Option Text := none
  contentDisposition : Option Text := none
  contentID : Option Text := none

def contentDispositionName : Text := "Content-Disposition".toList
def contentIDName : Text := "Content-Id".toList
def contentTransferEncodingName : Text := "Content-Transfer-Encoding".toList

def PartHeader.fields (h : PartHeader) : List HeaderField :=
  (h.contentDisposition.map (HeaderField.mk contentDispositionName)).toList ++
    (h.contentID.map (HeaderField.mk contentIDName)).toList ++
    (h.contentTransferEncoding.map (HeaderField.mk contentTransferEncodingName)).toList ++
    [⟨contentTypeName, h.contentType⟩]

/-- A `multipart.Writer` with the text of the buffer it writes to; `started` tells whether it has
written a part. -/
structure PartWriter where
  boundary : Text
  started : Bool := false
  buf : Text

namespace PartWriter

def createPart (w : PartWriter) (header : PartHeader) : PartWriter :=
  { w with
    started := true
    buf := w.buf ++ (opening w.started w.boundary ++ (headerBlock header.fields ++ crlf)) }

def write (w : PartWriter) (t : Text) : PartWriter := { w with buf := w.buf ++ t }

def close (w : PartWriter) : Text := w.buf ++ closing w.boundary

end PartWriter

def isHexChar (c : Char) : Bool := ('0' ≤ c && c ≤ '9') || ('a' ≤ c && c ≤ 'f')

def IsHex (t : Text) : Prop := t.all isHexChar = true

/-- What a message takes from outside the email: the date, the random part of its identifier, the
name of the host, and the boundaries that the multipart writers draw. -/
structure MIMEEnv where
  date : Text
  randomID : Text
  hostname : Text
  mixed : Text
  related : Text
  alternative : Text
  hasBreak_date : hasBreak date = false
  hasBreak_hostname : hasBreak hostname = false
  isHex_randomID : IsHex randomID
  isHex_mixed : IsHex mixed
  isHex_related : IsHex related
  isHex_alternative : IsHex alternative
  mixed_ne_related : mixed ≠ related
  mixed_ne_alternative : mixed ≠ alternative
  related_ne_alternative : related ≠ alternative

def base64Name : Text := "base64".toList

def textPlain : Text := "text/plain; charset=UTF-8".toList
def textHTML : Text := "text/html; charset=UTF-8".toList

def multipartType (subtype boundary : Text) : Text :=
  multipartPrefix ++ (subtype ++ ("; boundary=".toList ++ quoteText boundary))

def writeEncodedPart (w : PartWriter) (header : PartHeader) (data : Bytes) : PartWriter :=
  (w.createPart header).write (wrapBase64 data ++ crlf)

def bodyPartHeader (contentType : Text) : PartHeader :=
  { contentType := contentType, contentTransferEncoding := some base64Name }

def writeBodyPart (w : PartWriter) (contentType : Text) (body : String) : PartWriter :=
  writeEncodedPart w (bodyPartHeader contentType) (utf8 body.toList)

def writeAlternativeBodyParts (w : PartWriter) (email : Email) : PartWriter :=
  let w := if email.textBody ≠ "" then writeBodyPart w textPlain email.textBody else w
  if email.htmlBody ≠ "" then writeBodyPart w textHTML email.htmlBody else w

def alternativeName : Text := "alternative".toList
def relatedName : Text := "related".toList
def mixedName : Text := "mixed".toList

/-- A part that is a multipart message of its own. Its writer writes through the part into the same
buffer, and `body` ends with closing it. -/
def writeNested (w : PartWriter) (subtype boundary : Text) (body : PartWriter → Text) : PartWriter :=
  let part := w.createPart { contentType := multipartType subtype boundary }
  { part with buf := body { boundary := boundary, buf := part.buf } }

def writeAlternativeOrSingle (env : MIMEEnv) (parent : PartWriter) (email : Email) : PartWriter :=
  if email.textBody ≠ "" ∧ email.htmlBody ≠ "" then
    writeNested parent alternativeName env.alternative fun subAlt =>
      (writeAlternativeBodyParts subAlt email).close
  else if email.htmlBody ≠ "" then writeBodyPart parent textHTML email.htmlBody
  else writeBodyPart parent textPlain email.textBody

def Attachment.encodedFilename (att : Attachment) : Text :=
  quoteText (sanitizeHeaderValue (encodeHeader att.filename.toList))

/-- The content type goes out as it is. -/
def Attachment.typeValue (att : Attachment) : Text :=
  att.contentType.toList ++ ("; name=".toList ++ att.encodedFilename)

def inlineHeader (att : Attachment) : PartHeader :=
  { contentType := att.typeValue
    contentTransferEncoding := some base64Name
    contentDisposition := some ("inline; filename=".toList ++ att.encodedFilename)
    contentID := some ('<' :: (att.contentID.toList ++ ['>'])) }

def attachmentHeader (att : Attachment) : PartHeader :=
  { contentType := att.typeValue
    contentTransferEncoding := some base64Name
    contentDisposition := some ("attachment; filename=".toList ++ att.encodedFilename) }

def writeInlinePart (w : PartWriter) (att : Attachment) : PartWriter :=
  writeEncodedPart w (inlineHeader att) att.data

def writeAttachmentPart (w : PartWriter) (att : Attachment) : PartWriter :=
  writeEncodedPart w (attachmentHeader att) att.data

/-- The body is written as `writeAlternativeOrSingle` does, in a copy of its code. -/
def writeRelatedBody (env : MIMEEnv) (relWriter : PartWriter) (email : Email)
    (inline : List Attachment) : Text :=
  (inline.foldl writeInlinePart (writeAlternativeOrSingle env relWriter email)).close

/-! ### The message -/

def writeField (name value : Text) (buf : Text) : Text := buf ++ (HeaderField.line ⟨name, value⟩ ++ crlf)

/-- The custom headers that are dropped, since the message has its own. -/
def reservedHeaders : List String :=
  ["From", "To", "Cc", "Bcc", "Subject", "Date", "Reply-To", "MIME-Version", "Content-Type"]

def writeCustomHeaders : List (Sigma fun _ : String => String) → Text → Except GoError Text
  | [], buf => .ok buf
  | ⟨k, v⟩ :: rest, buf =>
    if validHeaderFieldName k.toList = false then
      .error ⟨"sender: invalid custom header name " ++ quote k⟩
    else if reservedHeaders.any (equalFold k) then writeCustomHeaders rest buf
    else writeCustomHeaders rest (writeField k.toList (sanitizeHeaderValue (encodeHeader v.toList)) buf)

def joinAddresses (addrs : List String) : Text := [',', ' '].intercalate (addrs.map String.toList)

def writeAddresses (name : Text) (addrs : List String) (buf : Text) : Text :=
  if addrs = [] then buf else writeField name (sanitizeHeaderValue (joinAddresses addrs)) buf

def hasMessageID (email : Email) : Bool := email.headers.keys.any fun k => equalFold k "Message-ID"

def messageID (env : MIMEEnv) : Text :=
  let host := if env.hostname = [] then "mailbaby.local".toList else env.hostname
  '<' :: (env.randomID ++ '@' :: (host ++ ['>']))

def writeStandardHeaders (env : MIMEEnv) (email : Email) (defaultFrom defaultFromName : String) : Text :=
  let fromAddr := if email.sender = "" then defaultFrom else email.sender
  let fromName := if email.fromName = "" then defaultFromName else email.fromName
  let buf := writeField "From".toList
    (sanitizeHeaderValue (formatAddress fromName.toList fromAddr.toList)) []
  let buf := writeAddresses "To".toList email.toAddrs buf
  let buf := writeAddresses "Cc".toList email.cc buf
  let buf :=
    if email.replyTo = "" then buf
    else writeField "Reply-To".toList (sanitizeHeaderValue email.replyTo.toList) buf
  let buf := writeField "Date".toList env.date buf
  let buf := writeField "Subject".toList (sanitizeHeaderValue (encodeHeader email.subject.toList)) buf
  let buf := if hasMessageID email then buf else writeField "Message-ID".toList (messageID env) buf
  writeField "MIME-Version".toList "1.0".toList buf

def writeHeaders (env : MIMEEnv) (email : Email) (defaultFrom defaultFromName : String) :
    Except GoError Text :=
  writeCustomHeaders email.headers.entries (writeStandardHeaders env email defaultFrom defaultFromName)

/-- The regular and the inline attachments; a nil entry is dereferenced. -/
def splitAttachments : List (Option Attachment) → Option (List Attachment × List Attachment)
  | [] => some ([], [])
  | none :: _ => none
  | some att :: rest =>
    (splitAttachments rest).map fun split =>
      if att.inline then (split.1, att :: split.2) else (att :: split.1, split.2)

inductive MIMEResult
  | ok (message : Text)
  | err (err : GoError)
  | panics

/-- The body of a message without attachments is not in a part of its own. -/
def writeSingle (contentType : Text) (body : String) (buf : Text) : Text :=
  let buf := writeField contentTypeName contentType buf
  let buf := writeField contentTransferEncodingName base64Name buf ++ crlf
  buf ++ (wrapBase64 (utf8 body.toList) ++ crlf)

def writeBody (env : MIMEEnv) (email : Email) (regular inline : List Attachment) (buf : Text) : Text :=
  if regular ≠ [] then
    let buf := writeField contentTypeName (multipartType mixedName env.mixed) buf ++ crlf
    let mixedWriter : PartWriter := { boundary := env.mixed, buf := buf }
    let mixedWriter :=
      if inline ≠ [] then
        writeNested mixedWriter relatedName env.related fun relWriter =>
          writeRelatedBody env relWriter email inline
      else writeAlternativeOrSingle env mixedWriter email
    (regular.foldl writeAttachmentPart mixedWriter).close
  else if inline ≠ [] then
    let buf := writeField contentTypeName (multipartType relatedName env.related) buf ++ crlf
    writeRelatedBody env { boundary := env.related, buf := buf } email inline
  else if email.textBody ≠ "" ∧ email.htmlBody ≠ "" then
    let buf := writeField contentTypeName (multipartType alternativeName env.alternative) buf ++ crlf
    (writeAlternativeBodyParts { boundary := env.alternative, buf := buf } email).close
  else if email.htmlBody ≠ "" then writeSingle textHTML email.htmlBody buf
  else writeSingle textPlain email.textBody buf

def buildMIME (env : MIMEEnv) (email : Email) (defaultFrom defaultFromName : String) : MIMEResult :=
  match writeHeaders env email defaultFrom defaultFromName with
  | .error err => .err err
  | .ok buf =>
    match splitAttachments email.attachments with
    | none => .panics
    | some (regular, inline) => .ok (writeBody env email regular inline buf)

end MailBaby
