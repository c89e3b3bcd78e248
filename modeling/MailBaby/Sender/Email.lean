import MailBaby.Lib.Address
import MailBaby.Lib.Text
import MailBaby.Lib.Unmarshal
import MailBaby.Queue.Message

/-!
# Emails

The email carried by a queue payload, how it is read from JSON, and its validation. The results
that do not depend on the JSON decoder or on the address parser take both as a `Codec`.
-/

namespace MailBaby

open Lib

structure Attachment where
  filename : String := ""
  contentType : String := ""
  data : Bytes := []
  inline : Bool := false
  contentID : String := ""

/-- An email. `sender` and `toAddrs` are the fields `From` and `To`; a nil entry of the
attachment list is `none`. -/
structure Email where
  id : String := ""
  account : String := ""
  sender : String := ""
  fromName : String := ""
  replyTo : String := ""
  toAddrs : List String := []
  cc : List String := []
  bcc : List String := []
  subject : String := ""
  textBody : String := ""
  htmlBody : String := ""
  headers : Headers := ∅
  attachments : List (Option Attachment) := []
  tags : List String := []
  metadata : Headers := ∅

/-- `json.Unmarshal` into an `Email`, and `mail.ParseAddress` reduced to the bare address. -/
structure Codec where
  unmarshalEmail : Bytes → Except GoError Email
  parseAddress : String → Except GoError String

/-! ### JSON -/

def Attachment.fields : List (StructField Attachment) :=
  [.of "filename" (·.filename) (fun a v => { a with filename := v }) .string,
    .of "content_type" (·.contentType) (fun a v => { a with contentType := v }) .string,
    .of "data" (·.data) (fun a v => { a with data := v }) .bytes,
    .of "inline" (·.inline) (fun a v => { a with inline := v }) .bool,
    .of "content_id" (·.contentID) (fun a v => { a with contentID := v }) .string]

namespace Email

def idField : StructField Email := .of "id" (·.id) (fun e v => { e with id := v }) .string

def headersField : StructField Email :=
  .of "headers" (·.headers) (fun e v => { e with headers := v }) (.map .string "")

def fields : List (StructField Email) :=
  [idField,
    .of "account" (·.account) (fun e v => { e with account := v }) .string,
    .of "from" (·.sender) (fun e v => { e with sender := v }) .string,
    .of "from_name" (·.fromName) (fun e v => { e with fromName := v }) .string,
    .of "reply_to" (·.replyTo) (fun e v => { e with replyTo := v }) .string,
    .of "to" (·.toAddrs) (fun e v => { e with toAddrs := v }) (.slice .string ""),
    .of "cc" (·.cc) (fun e v => { e with cc := v }) (.slice .string ""),
    .of "bcc" (·.bcc) (fun e v => { e with bcc := v }) (.slice .string ""),
    .of "subject" (·.subject) (fun e v => { e with subject := v }) .string,
    .of "text_body" (·.textBody) (fun e v => { e with textBody := v }) .string,
    .of "html_body" (·.htmlBody) (fun e v => { e with htmlBody := v }) .string,
    headersField,
    .of "attachments" (·.attachments) (fun e v => { e with attachments := v })
      (.slice (.pointer (.struct Attachment.fields) {}) none),
    .of "tags" (·.tags) (fun e v => { e with tags := v }) (.slice .string ""),
    .of "metadata" (·.metadata) (fun e v => { e with metadata := v }) (.map .string "")]

/-- `FromJSON` on a new email. -/
def fromJSON (data : Bytes) : Option Email := (Decoder.struct fields).unmarshal {} data

end Email

def Codec.standard (jsonError : Bytes → GoError) (parseAddress : String → Except GoError String) :
    Codec where
  unmarshalEmail data :=
    match Email.fromJSON data with
    | some email => .ok email
    | none => .error (jsonError data)
  parseAddress := parseAddress

/-- A reader of addresses that accepts and reads what `mail.ParseAddress` does; its errors are free. -/
def ReadsAddress (parseAddress : String → Except GoError String) : Prop :=
  ∀ s, (parseAddress s).toOption = Address.bareAddress s

/-- `mail.ParseAddress` with one text for all its errors. -/
def readAddress (s : String) : Except GoError String :=
  match Address.bareAddress s with
  | some address => .ok address
  | none => .error ⟨"mail: invalid address"⟩

lemma readsAddress_readAddress : ReadsAddress readAddress := by
  intro s
  rw [readAddress]
  cases Address.bareAddress s <;> rfl

def errNoRecipients : GoError :=
  ⟨"sender: at least one recipient (To, Cc, or Bcc) is required"⟩
def errInvalidFrom : GoError := ⟨"sender: invalid from email address"⟩
def errInvalidRecipient : GoError := ⟨"sender: invalid recipient email address"⟩

namespace Email

variable (codec : Codec)

def validateAddresses (list : List String) (field : String) : Option GoError :=
  list.findSome? fun addr =>
    match codec.parseAddress addr with
    | .ok _ => none
    | .error err => some ⟨errInvalidRecipient.text ++ " in " ++ field ++ ": " ++ quote addr ++
        " (" ++ err.text ++ ")"⟩

def validateFrom (e : Email) : Option GoError :=
  if e.sender = "" then none
  else match codec.parseAddress e.sender with
    | .ok _ => none
    | .error err =>
      some ⟨errInvalidFrom.text ++ ": " ++ quote e.sender ++ " (" ++ err.text ++ ")"⟩

def validateReplyTo (e : Email) : Option GoError :=
  if e.replyTo = "" then none
  else match codec.parseAddress e.replyTo with
    | .ok _ => none
    | .error err =>
      some ⟨"sender: invalid reply_to email " ++ quote e.replyTo ++ ": " ++ err.text⟩

def validate (e : Email) : Option GoError :=
  if e.toAddrs = [] ∧ e.cc = [] ∧ e.bcc = [] then some errNoRecipients
  else validateFrom codec e
    <|> validateAddresses codec e.toAddrs "To"
    <|> validateAddresses codec e.cc "Cc"
    <|> validateAddresses codec e.bcc "Bcc"
    <|> validateReplyTo codec e

end Email

namespace Codec

/-- The payload is non-empty, decodes to `email` and the email validates. -/
def ValidPayload (codec : Codec) (payload : Bytes) (email : Email) : Prop :=
  payload ≠ [] ∧ codec.unmarshalEmail payload = .ok email ∧ email.validate codec = none

def accepts (codec : Codec) (payload : Bytes) : Bool :=
  !payload.isEmpty && match codec.unmarshalEmail payload with
    | .ok email => (email.validate codec).isNone
    | .error _ => false

lemma validPayload_of_accepts {codec : Codec} {payload : Bytes} (h : codec.accepts payload = true) :
    ∃ email, codec.ValidPayload payload email := by
  unfold accepts at h
  cases hdec : codec.unmarshalEmail payload with
  | error err => simp [hdec] at h
  | ok email =>
    simp only [hdec, Bool.and_eq_true, Bool.not_eq_true', Option.isNone_iff_eq_none] at h
    exact ⟨email, by simpa using h.1, hdec, h.2⟩

end Codec

end MailBaby
