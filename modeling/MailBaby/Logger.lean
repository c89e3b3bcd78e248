import MailBaby.Lib.Marshal
import MailBaby.Lib.Regex
import MailBaby.Lib.Text
import MailBaby.Queue.Message

/-!
# Log entries

`Entry.log` writes one line in one of three formats, and `RedactSecrets` removes credentials from what
goes into it. The line is kept as text; the writer gets its UTF-8 form.
-/

namespace MailBaby.Log

open Lib

/-! ### Redaction -/

open Regex

/-- The flag `(?i)`. -/
def anyCase (cls : Char → Bool) (c : Char) : Bool := cls c || cls (foldRune c)

def word (s : String) : Regex := all (s.toList.map fun l => one fun c => foldRune c = foldRune l)

def blanks (least : Nat) : Regex := many isBlank least none

def urlCredsRe : Regex :=
  all
    [.group 1 (Regex.literal "://"),
      .group 2 (many (fun c => !(c = '/' || c = '@' || isBlank c || c = ':')) 1 none),
      one (· = ':'),
      .group 3 (many (fun c => !(c = '/' || c = '@' || isBlank c)) 1 none),
      one (· = '@')]

def base64BlobRe : Regex :=
  any
    [.seq (many isBase64 16 none) (many (· = '=') 0 (some 2)),
      all [.wordBoundary, many isBase64 4 none, many (· = '=') 1 none, .wordBoundary]]

def smtpChallengeRe : Regex :=
  .seq (.group 1 (.seq (word "334") (blanks 1)))
    (.group 2 (many (anyCase fun c => isBase64 c || c = '=') 4 none))

def smtpCredRe : Regex :=
  .seq
    (.group 1
      (all [word "auth", blanks 1, any [word "login", word "plain", word "cram-md5", word "xoauth2"], blanks 1]))
    (.group 2 (many (fun c => !isBlank c) 1 none))

def authorizationHeaderRe : Regex :=
  all
    [.group 1 (.seq (word "authorization:") (blanks 0)),
      .opt (.group 2 (.seq (many (anyCase isLetter) 1 none) (blanks 1))),
      .group 3 (many (fun c => !(isBlank c || c = '"' || c = '\'')) 1 none)]

def apiKeyHeaderRe : Regex :=
  .seq
    (.group 1
      (all [any [word "x-api-key", word "x-api-token", word "x-auth-token"], one (· = ':'), blanks 0]))
    (.group 2 (many (fun c => !(isBlank c || c = '"' || c = '\'' || c = ',')) 1 none))

def redacted : Piece := .text "<redacted>".toList

def redactURL (s : String) : String :=
  String.ofList (urlCredsRe.replaceAll [.group 1, .text "***:***@".toList] s.toList)

def redactSecrets (s : String) : String :=
  if s = "" then s
  else
    let s := urlCredsRe.replaceAll [.group 1, .text "***:***@".toList] s.toList
    let s := smtpCredRe.replaceAll [.group 1, redacted] s
    let s := smtpChallengeRe.replaceAll [.group 1, redacted] s
    let s := authorizationHeaderRe.replaceAll [.group 1, .group 2, redacted] s
    let s := apiKeyHeaderRe.replaceAll [.group 1, redacted] s
    String.ofList (base64BlobRe.replaceAll [redacted] s)

/-! ### Entries -/

inductive Level
  | trace | debug | info | warn | error | fatal | panic
  deriving DecidableEq, Repr

namespace Level

def rank : Level → Nat
  | trace => 0
  | debug => 1
  | info => 2
  | warn => 3
  | error => 4
  | fatal => 5
  | panic => 6

def string : Level → String
  | trace => "TRACE"
  | debug => "DEBUG"
  | info => "INFO"
  | warn => "WARN"
  | error => "ERROR"
  | fatal => "FATAL"
  | panic => "PANIC"

end Level

structure LogConfig where
  format : String := ""
  showCaller : Bool := false
  timeFormat : String := ""

/-- `out` says whether there is a writer. -/
structure Logger where
  cfg : LogConfig := {}
  level : Level := .trace
  out : Bool := true

/-- The value of a field. Of one that is neither a text nor an error its JSON form, if it has one, and
its printed form. -/
inductive FieldValue
  | string (val : String)
  | error (text : String)
  | other (json : Option (List Char)) (printed : String)
  deriving DecidableEq

/-- `fmt.Sprint`. -/
def FieldValue.sprint : FieldValue → String
  | string val => val
  | error text => text
  | other _ printed => printed

abbrev Fields := AList fun _ : String => FieldValue

/-- What a call finds outside: the time in each layout, and its caller if that is known. -/
structure LogEnv where
  format : String → String
  caller : Option String := none

inductive Ending
  | returns
  | exits (code : Nat)
  | panics (msg : String)
  deriving DecidableEq

structure LogResult where
  written : Option (List Char)
  ending : Ending

def escapeLogText (s : String) : List Char :=
  s.toList.flatMap fun c => if c = '\r' then ['\\', 'r'] else if c = '\n' then ['\\', 'n'] else [c]

def quoteLogText (t : List Char) : List Char := (quote (String.ofList t)).toList

/-! ### JSON -/

def jsonValue : FieldValue → Option (List Char)
  | .string val => some (Json.Tree.quoted (redactSecrets val).toList)
  | .error text => some (Json.Tree.quoted (redactSecrets text).toList)
  | .other json _ => json

abbrev Payload := AList fun _ : String => Option (List Char)

/-- The payload before the fields go in. The message is not redacted. -/
def basePayload (timeStr : String) (lvl : Level) (msg callerStr : String) : Payload :=
  let payload : Payload := (∅ : Payload).insert "timestamp" (some (Json.Tree.quoted timeStr.toList))
  let payload := payload.insert "level" (some (Json.Tree.quoted lvl.string.toList))
  let payload := payload.insert "message" (some (Json.Tree.quoted msg.toList))
  if callerStr ≠ "" then payload.insert "caller" (some (Json.Tree.quoted callerStr.toList)) else payload

def addFields (fields : Fields) (base : Payload) : Payload :=
  fields.entries.foldl (fun payload field => payload.insert field.1 (jsonValue field.2)) base

def sortedKeys (payload : Payload) : List String := payload.keys.mergeSort fun a b => !decide (b < a)

def jsonField (payload : Payload) (key : String) : List Char :=
  Json.Tree.quoted key.toList ++ ':' :: ((payload.lookup key).join.getD [])

/-- `json.Marshal`, which fails if a value has no JSON form. -/
def marshal (payload : Payload) : Option (List Char) :=
  if payload.keys.all fun key => (payload.lookup key).join.isSome then
    some ('{' :: ([','].intercalate ((sortedKeys payload).map (jsonField payload)) ++ ['}']))
  else none

/-! ### The line -/

/-- The fields in the order in which a range visits their keys. -/
def rangeFields (order : List String) (fields : Fields) (f : String → FieldValue → List Char) :
    List (List Char) :=
  order.filterMap fun k => (fields.lookup k).map (f k)

def jsonLine (timeStr : String) (lvl : Level) (msg callerStr : String) (fields : Fields) : List Char :=
  (marshal (addFields fields (basePayload timeStr lvl msg callerStr))).getD [] ++ ['\n']

def logfmtLine (timeStr : String) (lvl : Level) (msg callerStr : String) (fields : Fields)
    (order : List String) : List Char :=
  "time=".toList ++ (quote timeStr).toList ++ " level=".toList ++ lvl.string.toList ++ " msg=".toList ++
    quoteLogText (escapeLogText (redactSecrets msg)) ++
    (if callerStr ≠ "" then " caller=".toList ++ (quote callerStr).toList else []) ++
    (rangeFields order fields fun k v =>
      ' ' :: (k.toList ++ '=' :: quoteLogText (escapeLogText (redactSecrets v.sprint)))).flatten ++ ['\n']

/-- The fields of a line of text besides the trace. -/
def extraFields (order : List String) (fields : Fields) : List (List Char) :=
  rangeFields (order.filter fun k => k ≠ "trace_id" ∧ k ≠ "span_id") fields fun k v =>
    k.toList ++ '=' :: escapeLogText (redactSecrets v.sprint)

def textLine (timeStr : String) (lvl : Level) (msg callerStr : String) (fields : Fields)
    (order : List String) : List Char :=
  '[' :: (timeStr.toList ++ "] [".toList ++ lvl.string.toList ++ "]".toList) ++
    (if callerStr ≠ "" then " [".toList ++ callerStr.toList ++ "]".toList else []) ++
    (match fields.lookup "trace_id" with
      | some tid => " [trace_id=".toList ++ escapeLogText tid.sprint ++ "]".toList
      | none => []) ++
    ' ' :: escapeLogText (redactSecrets msg) ++
    (if extraFields order fields ≠ [] then " | ".toList ++ [' '].intercalate (extraFields order fields) else []) ++
    ['\n']

inductive LogFormat
  | json | logfmt | text
  deriving DecidableEq

/-- The case of the `switch` in `log`. -/
def LogConfig.logFormat (cfg : LogConfig) : LogFormat :=
  if toLower cfg.format = "json" then .json
  else if toLower cfg.format = "logfmt" then .logfmt
  else .text

def defaultLayout : String := "2006-01-02 15:04:05.000"

def Logger.timeStr (l : Logger) (env : LogEnv) : String :=
  env.format (if l.cfg.timeFormat ≠ "" then l.cfg.timeFormat else defaultLayout)

def Logger.callerStr (l : Logger) (env : LogEnv) : String := if l.cfg.showCaller then env.caller.getD "" else ""

def Logger.line (l : Logger) (env : LogEnv) (lvl : Level) (msg : String) (fields : Fields)
    (order : List String) : List Char :=
  match l.cfg.logFormat with
  | .json => jsonLine (l.timeStr env) lvl msg (l.callerStr env) fields
  | .logfmt => logfmtLine (l.timeStr env) lvl msg (l.callerStr env) fields order
  | .text => textLine (l.timeStr env) lvl msg (l.callerStr env) fields order

def endingOf (lvl : Level) (msg : String) : Ending :=
  match lvl with
  | .fatal => .exits 1
  | .panic => .panics msg
  | _ => .returns

/-- `Entry.log`. The range over the fields visits the keys in `order`. -/
def log (logger : Option Logger) (env : LogEnv) (lvl : Level) (msg : String) (fields : Fields)
    (order : List String) : LogResult :=
  match logger with
  | none => ⟨none, .returns⟩
  | some l =>
    if lvl.rank < l.level.rank then ⟨none, .returns⟩
    else ⟨if l.out then some (l.line env lvl msg fields order) else none, endingOf lvl msg⟩

end MailBaby.Log
