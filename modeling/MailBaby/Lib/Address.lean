import MailBaby.Lib.Encoding
import MailBaby.Lib.Text

/-!
# Mail addresses

The parser of package `net/mail` for addresses and address lists: mailboxes with and without a display
name, groups, comments, quoted strings, domain literals, and display names in encoded words. A parser
gives what it has read and the text after it. The texts of its errors are left out, and names are bytes,
since what is encoded need not be valid UTF-8.
-/

namespace MailBaby.Lib.Address

abbrev Text := List Char

/-! ### Characters -/

def isVchar (c : Char) : Bool := (0x21 ≤ c.toNat && c.toNat ≤ 0x7e) || 0x80 ≤ c.toNat

def specials : List Char := ['(', ')', '<', '>', '[', ']', ':', ';', '@', '\\', ',', '"']

/-- The characters of an atom; the dot is always allowed. -/
def isAtext (c : Char) : Bool := !specials.contains c && isVchar c

def isQtext (c : Char) : Bool := c ≠ '\\' && c ≠ '"' && isVchar c

def isDtext (c : Char) : Bool := c ≠ '[' && c ≠ ']' && c ≠ '\\' && isVchar c

def isWSP (c : Char) : Bool := c = ' ' || c = '\t'

def skipSpace (s : Text) : Text := s.dropWhile isWSP

/-! ### Atoms, quoted strings and comments -/

/-- No dot comes first or last or after another one. -/
def dotsInside (atom : Text) : Bool := (atom.splitOn '.').all fun piece => !piece.isEmpty

def consumeAtom (permissive : Bool) (s : Text) : Option (Text × Text) :=
  let atom := s.takeWhile isAtext
  if atom = [] then none
  else if permissive || dotsInside atom then some (atom, s.dropWhile isAtext)
  else none

/-- The rest of a quoted string after its opening quote; `escaped` tells whether a backslash was read. -/
def quotedString : (escaped : Bool) → Text → Option (Text × Text)
  | _, [] => none
  | true, c :: s =>
    if isVchar c || isWSP c then (quotedString false s).map fun (content, rest) => (c :: content, rest) else none
  | false, c :: s =>
    if isQtext c || isWSP c then (quotedString false s).map fun (content, rest) => (c :: content, rest)
    else if c = '"' then some ([], s)
    else if c = '\\' then quotedString true s
    else none

/-- The rest of a comment at this depth of parentheses. -/
def comment : (depth : Nat) → Text → Option (Text × Text)
  | _, [] => none
  | depth, c :: s =>
    match c, s with
    | '\\', d :: s => (comment depth s).map fun (content, rest) => (d :: content, rest)
    | '(', s => (comment (depth + 1) s).map fun (content, rest) => ('(' :: content, rest)
    | ')', s =>
      match depth with
      | 0 => some ([], s)
      | depth + 1 => (comment depth s).map fun (content, rest) => (')' :: content, rest)
    | c, s => (comment depth s).map fun (content, rest) => (c :: content, rest)

/-- Skips blanks and comments; inside of a comment `depth` parentheses are open. -/
def skipComments : (depth : Nat) → Text → Option Text
  | 0, [] => some []
  | _ + 1, [] => none
  | 0, c :: s =>
    if isWSP c then skipComments 0 s
    else if c = '(' then skipComments 1 s
    else some (c :: s)
  | depth + 1, c :: s =>
    match c, s with
    | '\\', _ :: s => skipComments (depth + 1) s
    | '(', s => skipComments (depth + 2) s
    | ')', s => skipComments depth s
    | _, s => skipComments (depth + 1) s

def skipCFWS (s : Text) : Option Text := skipComments 0 s

/-! ### Domains -/

def isOctet (field : Text) : Bool :=
  field ≠ [] && field.all isDigit && (field.length = 1 || field.head? ≠ some '0') && digits field ≤ 255

def isIPv4 (s : Text) : Bool := (s.splitOn '.').length = 4 && (s.splitOn '.').all isOctet

def isHexDigit (c : Char) : Bool := isDigit c || ('a' ≤ c && c ≤ 'f') || ('A' ≤ c && c ≤ 'F')

/-- Fields are missing exactly if an ellipsis stands for them. -/
def complete (left : Nat) (ellipsis : Bool) : Bool := if left = 0 then !ellipsis else ellipsis

/-- The fields of an IPv6 address, of which `left` are still to come; `ellipsis` tells whether `::` was
read. -/
def ipv6Fields : (left : Nat) → (ellipsis : Bool) → Text → Bool
  | 0, ellipsis, s => s = [] && !ellipsis
  | left + 1, ellipsis, s =>
    let hex := s.takeWhile isHexDigit
    if hex = [] || 4 < hex.length then false
    else match s.dropWhile isHexDigit with
      | '.' :: _ => (ellipsis || left = 1) && 1 ≤ left && isIPv4 s && complete (left - 1) ellipsis
      | [] => complete left ellipsis
      | [':'] => false
      | [':', ':'] => !ellipsis && complete left true
      | ':' :: ':' :: rest => !ellipsis && ipv6Fields left true rest
      | ':' :: rest => ipv6Fields left ellipsis rest
      | _ => false

def isIPv6 : Text → Bool
  | [':', ':'] => true
  | ':' :: ':' :: rest => ipv6Fields 8 true rest
  | s => ipv6Fields 8 false s

/-- Whether `net.ParseIP` accepts the text; addresses with a zone are refused. -/
def isIP (s : Text) : Bool :=
  match s.find? fun c => c = '.' || c = ':' || c = '%' with
  | some '.' => isIPv4 s
  | some ':' => isIPv6 s
  | _ => false

def domainLiteral (s : Text) : Option (Text × Text) :=
  match s.dropWhile isDtext with
  | ']' :: rest =>
    if isIP (s.takeWhile isDtext) then some ('[' :: (s.takeWhile isDtext ++ [']']), rest) else none
  | _ => none

def consumeDomain : Text → Option (Text × Text)
  | '[' :: s => domainLiteral s
  | s => consumeAtom false s

/-- A local part between quotes must not be empty. -/
def consumeLocalPart : Text → Option (Text × Text)
  | '"' :: s => (quotedString false s).filter fun (content, _) => content ≠ []
  | s => consumeAtom false s

def consumeAddrSpec (s : Text) : Option (Text × Text) :=
  match consumeLocalPart (skipSpace s) with
  | some (localPart, '@' :: rest) =>
    (consumeDomain (skipSpace rest)).map fun (domain, rest) => (localPart ++ '@' :: domain, rest)
  | _ => none

/-! ### Encoded words -/

def hexValue (c : Char) : Option Nat :=
  if '0' ≤ c ∧ c ≤ '9' then some (c.toNat - 48)
  else if 'A' ≤ c ∧ c ≤ 'F' then some (c.toNat - 55)
  else if 'a' ≤ c ∧ c ≤ 'f' then some (c.toNat - 87)
  else none

def qDecode : Text → Option (List UInt8)
  | [] => some []
  | '_' :: s => (qDecode s).map (0x20 :: ·)
  | '=' :: a :: b :: s => do
    let a ← hexValue a
    let b ← hexValue b
    let bytes ← qDecode s
    some (UInt8.ofNat (a * 16 + b) :: bytes)
  | '=' :: _ => none
  | c :: s =>
    if (' ' ≤ c ∧ c ≤ '~') ∨ c = '\n' ∨ c = '\r' ∨ c = '\t' then
      (qDecode s).map (UInt8.ofNat c.toNat :: ·)
    else none

def decodeContent (encoding : Text) (text : Text) : Option (List UInt8) :=
  if encoding = ['B'] ∨ encoding = ['b'] then Base64.decode text
  else if encoding = ['Q'] ∨ encoding = ['q'] then qDecode text
  else none

/-- The text in UTF-8; none for an unknown character set. -/
def convert (charset : Text) (content : List UInt8) : Option (List UInt8) :=
  if sameFold "utf-8" (String.ofList charset) then some content
  else if sameFold "iso-8859-1" (String.ofList charset) then
    some (content.flatMap fun b => String.utf8EncodeChar (Char.ofNat b.toNat))
  else if sameFold "us-ascii" (String.ofList charset) then
    some (content.flatMap fun b => if b < 0x80 then [b] else String.utf8EncodeChar replacementChar)
  else none

def encodedContent (word : Text) : Option (Text × List UInt8) :=
  if (utf8 word).length < 8 ∨ ¬['=', '?'].isPrefixOf word ∨ ¬['?', '='].isSuffixOf word ∨ word.count '?' ≠ 4 then
    none
  else match ((word.drop 2).take (word.length - 4)).splitOn '?' with
    | [charset, encoding, text] =>
      if charset = [] then none else (decodeContent encoding text).map fun content => (charset, content)
    | _ => none

/-- A word of a display name, and whether it was encoded; none for an unknown character set. -/
def decodeWord (word : Text) : Option (List UInt8 × Bool) :=
  match encodedContent word with
  | none => some (utf8 word, false)
  | some (charset, content) => (convert charset content).map fun bytes => (bytes, true)

/-! ### Unstructured text -/

/-- The words of a phrase, as long as they can be read. After the first one comments may stand between
them, and only the first one has to be there. -/
def phraseWords : (fuel : Nat) → (first : Bool) → Text → Option (List (List UInt8 × Bool) × Text)
  | 0, _, s => some ([], s)
  | fuel + 1, first, s =>
    match if first then some s else skipCFWS s with
    | none => none
    | some s =>
      match skipSpace s with
      | [] => if first then none else some ([], [])
      | '"' :: rest =>
        match quotedString false rest with
        | none => if first then none else some ([], '"' :: rest)
        | some (content, rest) =>
          (phraseWords fuel false rest).map fun (words, rest) => ((utf8 content, false) :: words, rest)
      | s =>
        match consumeAtom true s with
        | none => if first then none else some ([], s)
        | some (atom, rest) =>
          match decodeWord atom with
          | none => if first then none else some ([], rest)
          | some word => (phraseWords fuel false rest).map fun (words, rest) => (word :: words, rest)

/-- Encoded words that follow each other are one word. -/
def joinWords : List (List UInt8 × Bool) → List UInt8
  | [] => []
  | [word] => word.1
  | word :: next :: words =>
    word.1 ++ ((if word.2 && next.2 then [] else [0x20]) ++ joinWords (next :: words))

def consumePhrase (s : Text) : Option (List UInt8 × Text) :=
  (phraseWords s.length true s).map fun (words, rest) => (joinWords words, rest)

/-- The display name in a comment after an address. -/
def displayNameComment (s : Text) : Option (List UInt8 × Text) :=
  match comment 0 s with
  | none => none
  | some (content, rest) =>
    let words := (content.splitOnP isWSP).filter (· ≠ [])
    (words.mapM decodeWord).map fun words => ([(0x20 : UInt8)].intercalate (words.map (·.1)), rest)

/-! ### Addresses -/

structure Mailbox where
  name : List UInt8
  address : Text
  deriving DecidableEq

/-- An address; `group` reads what follows the name of a group, where groups are allowed. -/
def parseAddressWith (group : Option (Text → Option (List Mailbox × Text))) (s : Text) :
    Option (List Mailbox × Text) :=
  match skipSpace s with
  | [] => none
  | s =>
    match consumeAddrSpec s with
    | some (spec, rest) =>
      match skipSpace rest with
      | '(' :: rest => (displayNameComment rest).map fun (name, rest) => ([⟨name, spec⟩], rest)
      | rest => some ([⟨[], spec⟩], rest)
    | none =>
      match if s.head? = some '<' then some ([], s) else consumePhrase s with
      | none => none
      | some (name, rest) =>
        match skipSpace rest, group with
        | ':' :: rest, some group => group rest
        | '<' :: rest, _ =>
          match consumeAddrSpec rest with
          | some (spec, '>' :: rest) => some ([⟨name, spec⟩], rest)
          | _ => none
        | _, _ => none

def groupMembers : (fuel : Nat) → Text → Option (List Mailbox × Text)
  | 0, _ => none
  | fuel + 1, s =>
    match parseAddressWith none s with
    | none => none
    | some (members, rest) =>
      match skipCFWS rest with
      | some (';' :: rest) => (skipCFWS rest).map fun rest => (members, rest)
      | some (',' :: rest) => (groupMembers fuel rest).map fun (more, rest) => (members ++ more, rest)
      | _ => none

def consumeGroupList (s : Text) : Option (List Mailbox × Text) :=
  match skipSpace s with
  | ';' :: rest => (skipCFWS rest).map fun rest => ([], rest)
  | s => groupMembers (s.length + 1) s

def parseAddress (s : Text) : Option (List Mailbox × Text) := parseAddressWith (some consumeGroupList) s

def parseSingleAddress (s : Text) : Option Mailbox :=
  match parseAddress s with
  | some ([mailbox], rest) => if skipCFWS rest = some [] then some mailbox else none
  | _ => none

def bareAddress (s : String) : Option String :=
  (parseSingleAddress s.toList).map fun mailbox => String.ofList mailbox.address

def parseList : (fuel : Nat) → Text → Option (List Mailbox)
  | 0, _ => none
  | fuel + 1, s =>
    match skipSpace s with
    | ',' :: rest => parseList fuel rest
    | s =>
      match parseAddress s with
      | none => none
      | some (mailboxes, rest) =>
        match skipCFWS rest with
        | some [] => some mailboxes
        | some (',' :: rest) =>
          match rest.dropWhile fun c => c = ',' || isWSP c with
          | [] => some mailboxes
          | rest => (parseList fuel rest).map fun more => mailboxes ++ more
        | _ => none

def parseAddressList (s : Text) : Option (List Mailbox) := parseList (s.length + 1) s

end MailBaby.Lib.Address
