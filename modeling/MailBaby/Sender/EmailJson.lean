import MailBaby.Lib.Marshal
import MailBaby.Sender.Email

/-!
# Emails as JSON

`ToJSON` writes the fields of an email in their order and leaves out empty ones that are marked so. An empty
list or byte slice is taken to be nil, which is written as `null`.
-/

namespace MailBaby

open Lib Lib.Json

/-- The members of an object; one without a value is left out. -/
def writeMembers (members : List (String × Option (List Char))) : List Char :=
  let written := members.filterMap fun m => m.2.map fun value => Tree.quoted m.1.toList ++ ':' :: value
  '{' :: ([','].intercalate written ++ ['}'])

def writeList {α : Type} (write : α → List Char) (items : List α) : List Char :=
  if items = [] then "null".toList else '[' :: ([','].intercalate (items.map write) ++ [']'])

def writeString (s : String) : List Char := Tree.quoted s.toList

def writeBytes (data : Bytes) : List Char :=
  if data = [] then "null".toList else Tree.quoted (Base64.encode data)

def writeBool (b : Bool) : List Char := if b then "true".toList else "false".toList

/-- The option `omitempty`. -/
def omitEmpty (empty : Bool) (value : List Char) : Option (List Char) := if empty then none else some value

def Attachment.toJSON (att : Attachment) : List Char :=
  writeMembers
    [("filename", some (writeString att.filename)),
      ("content_type", some (writeString att.contentType)),
      ("data", some (writeBytes att.data)),
      ("inline", some (writeBool att.inline)),
      ("content_id", omitEmpty (att.contentID = "") (writeString att.contentID))]

def Email.toJSON (e : Email) : List Char :=
  writeMembers
    [("id", omitEmpty (e.id = "") (writeString e.id)),
      ("account", omitEmpty (e.account = "") (writeString e.account)),
      ("from", omitEmpty (e.sender = "") (writeString e.sender)),
      ("from_name", omitEmpty (e.fromName = "") (writeString e.fromName)),
      ("reply_to", omitEmpty (e.replyTo = "") (writeString e.replyTo)),
      ("to", some (writeList writeString e.toAddrs)),
      ("cc", omitEmpty e.cc.isEmpty (writeList writeString e.cc)),
      ("bcc", omitEmpty e.bcc.isEmpty (writeList writeString e.bcc)),
      ("subject", some (writeString e.subject)),
      ("text_body", omitEmpty (e.textBody = "") (writeString e.textBody)),
      ("html_body", omitEmpty (e.htmlBody = "") (writeString e.htmlBody)),
      ("headers", omitEmpty e.headers.entries.isEmpty (Tree.texts e.headers).render),
      ("attachments", omitEmpty e.attachments.isEmpty
        (writeList (fun att => (att.map Attachment.toJSON).getD "null".toList) e.attachments)),
      ("tags", omitEmpty e.tags.isEmpty (writeList writeString e.tags)),
      ("metadata", omitEmpty e.metadata.entries.isEmpty (Tree.texts e.metadata).render)]

end MailBaby
