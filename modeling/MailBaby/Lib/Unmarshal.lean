import Mathlib.Algebra.Group.Int.Defs
import Mathlib.Data.List.AList
import MailBaby.Lib.Json

/-!
# Reading Go values out of JSON

`encoding/json`: a value is read into a variable that may already hold something. Null leaves scalars
and structs alone and empties maps, slices and pointers; unknown fields of an object are ignored, and
names are compared without regard to case. Whether a value fits does not depend on what the variable
holds, and a decoder carries the proof of it.
-/

namespace MailBaby.Lib

structure Decoder (α : Type) where
  fits : Json → Bool
  run : α → Json → Option α
  run_isSome : ∀ a v, (run a v).isSome = fits v

namespace Decoder

section Scalars

/-- A decoder that ignores the old value, except that null keeps it. -/
def scalar {α : Type} (read : Json → Option α) : Decoder α where
  fits v := match v with
    | .null => true
    | v => (read v).isSome
  run a v := match v with
    | .null => some a
    | v => read v
  run_isSome a v := by cases v <;> rfl

def string : Decoder String :=
  scalar fun
    | .str text => (Json.unquote text).map String.ofList
    | _ => none

def bool : Decoder Bool :=
  scalar fun
    | .bool b => some b
    | _ => none

def readDigits (text : List Char) : Option Nat :=
  if text ≠ [] ∧ text.all isDigit then some (digits text) else none

def readInt : List Char → Option Int
  | '-' :: text => (readDigits text).map fun n => -(n : Int)
  | text => (readDigits text).map fun n => (n : Int)

def int64 : Decoder Int :=
  scalar fun
    | .num text => (readInt text).filter fun n => -2 ^ 63 ≤ n ∧ n < 2 ^ 63
    | _ => none

def uint8 : Decoder UInt8 :=
  scalar fun
    | .num text => ((readDigits text).filter fun n => n < 256).map UInt8.ofNat
    | _ => none

/-- A time reads the text of the literal, escapes and all. -/
def time : Decoder Int :=
  scalar fun
    | .str text => Timestamp.parse text
    | _ => none

end Scalars

section Containers

variable {α : Type} (d : Decoder α) (zero : α)

/-- The elements are read over those that the slice already has. -/
def runSlice : List α → List Json → Option (List α)
  | _, [] => some []
  | old, v :: vs => do
    let a ← d.run (old.headD zero) v
    let as ← runSlice old.tail vs
    some (a :: as)

lemma length_runSlice {old as : List α} {vs : List Json} (h : runSlice d zero old vs = some as) :
    as.length = vs.length := by
  induction vs generalizing old as with
  | nil =>
    cases h
    rfl
  | cons v vs ih =>
    simp only [runSlice, Option.bind_eq_bind, Option.bind_eq_some_iff, Option.some.injEq] at h
    obtain ⟨a, -, rest, hrest, rfl⟩ := h
    rw [List.length_cons, List.length_cons, ih hrest]

lemma runSlice_isSome (old : List α) (vs : List Json) :
    (runSlice d zero old vs).isSome = vs.all d.fits := by
  induction vs generalizing old with
  | nil => rfl
  | cons v vs ih =>
    have hv := d.run_isSome (old.headD zero) v
    have hvs := ih old.tail
    rw [List.all_cons, ← hv, ← hvs, runSlice]
    cases d.run (old.headD zero) v <;> cases runSlice d zero old.tail vs <;> rfl

def slice : Decoder (List α) where
  fits
    | .null => true
    | .arr vs => vs.all d.fits
    | _ => false
  run old
    | .null => some []
    | .arr vs => runSlice d zero old vs
    | _ => none
  run_isSome old v := by
    cases v with
    | arr vs => exact runSlice_isSome d zero old vs
    | _ => rfl

def pointer : Decoder (Option α) where
  fits
    | .null => true
    | v => d.fits v
  run old
    | .null => some none
    | v => (d.run (old.getD zero) v).map some
  run_isSome old v := by
    cases v with
    | null => rfl
    | _ => exact (Option.isSome_map).trans (d.run_isSome _ _)

/-- Entries are added to the map there is. -/
def runMap : AList (fun _ : String => α) → List (String × Json) → Option (AList fun _ : String => α)
  | m, [] => some m
  | m, (key, v) :: fields => do
    let a ← d.run zero v
    runMap (m.insert key a) fields

lemma runMap_isSome (m : AList fun _ : String => α) (fields : List (String × Json)) :
    (runMap d zero m fields).isSome = fields.all fun field => d.fits field.2 := by
  induction fields generalizing m with
  | nil => rfl
  | cons field fields ih =>
    have hv := d.run_isSome zero field.2
    rw [List.all_cons, ← hv, runMap]
    cases hrun : d.run zero field.2 with
    | none => rfl
    | some a => exact ih (m.insert field.1 a)

def map : Decoder (AList fun _ : String => α) where
  fits
    | .null => true
    | .obj fields => fields.all fun field => d.fits field.2
    | _ => false
  run m
    | .null => some ∅
    | .obj fields => runMap d zero m fields
    | _ => none
  run_isSome m v := by
    cases v with
    | obj fields => exact runMap_isSome d zero m fields
    | _ => rfl

end Containers

/-- A byte slice is base64 text, or an array of numbers. -/
def bytes : Decoder (List UInt8) where
  fits
    | .str text => ((Json.unquote text).bind Base64.decode).isSome
    | v => (slice uint8 0).fits v
  run old
    | .str text => (Json.unquote text).bind Base64.decode
    | v => (slice uint8 0).run old v
  run_isSome old v := by
    cases v with
    | str text => rfl
    | _ => exact (slice uint8 0).run_isSome _ _

lemma length_bytes_le {old read : List UInt8} {v : Json} (h : bytes.run old v = some read) :
    read.length ≤ v.size := by
  cases v with
  | str text =>
    obtain ⟨unquoted, hunquote, hdecode⟩ := Option.bind_eq_some_iff.mp h
    exact Nat.le_trans (Base64.length_decode_le hdecode) (Json.length_unquote_le hunquote)
  | arr items =>
    rw [length_runSlice uint8 0 h]
    exact Json.length_le_sizes items
  | null =>
    cases h
    exact Nat.zero_le _
  | bool b => cases h
  | num text => cases h
  | obj fields => cases h

end Decoder

/-! ### Structs -/

/-- The letters that are equal to one of the ASCII letters up to case. -/
def foldRune (c : Char) : Char :=
  if 'a' ≤ c ∧ c ≤ 'z' then Char.ofNat (c.toNat - 32)
  else if c = 'ſ' then 'S'
  else if c = 'K' then 'K'
  else c

def foldName (name : String) : List Char := name.toList.map foldRune

/-- `strings.EqualFold` for a text of ASCII letters. -/
def equalFold (s t : String) : Bool := foldName s = foldName t

structure StructField (σ : Type) where
  name : String
  fits : Json → Bool
  run : σ → Json → Option σ
  run_isSome : ∀ s v, (run s v).isSome = fits v

namespace StructField

variable {σ : Type}

def of {α : Type} (name : String) (get : σ → α) (set : σ → α → σ) (d : Decoder α) : StructField σ where
  name := name
  fits := d.fits
  run s v := (d.run (get s) v).map (set s)
  run_isSome s v := by rw [Option.isSome_map, d.run_isSome]

/-- A field of a struct that is embedded in `τ`. -/
def embed {τ : Type} (get : τ → σ) (set : τ → σ → τ) (f : StructField σ) : StructField τ where
  name := f.name
  fits := f.fits
  run s v := (f.run (get s) v).map (set s)
  run_isSome s v := by rw [Option.isSome_map, f.run_isSome]

/-- The field that a key of an object is read into. -/
def lookup (fields : List (StructField σ)) (key : String) : Option (StructField σ) :=
  (fields.find? fun f => f.name = key).or (fields.find? fun f => foldName f.name = foldName key)

def store (fields : List (StructField σ)) (s : σ) (entry : String × Json) : Option σ :=
  match lookup fields entry.1 with
  | none => some s
  | some f => f.run s entry.2

/-- Whether an entry of an object can be stored: it is unknown, or fits its field. -/
def accepts (fields : List (StructField σ)) (entry : String × Json) : Bool :=
  match lookup fields entry.1 with
  | none => true
  | some f => f.fits entry.2

lemma store_isSome (fields : List (StructField σ)) (s : σ) (entry : String × Json) :
    (store fields s entry).isSome = accepts fields entry := by
  unfold store accepts
  cases lookup fields entry.1 with
  | none => rfl
  | some f => exact f.run_isSome s entry.2

lemma foldlM_store_isSome (fields : List (StructField σ)) (s : σ) (entries : List (String × Json)) :
    (entries.foldlM (store fields) s).isSome = entries.all (accepts fields) := by
  induction entries generalizing s with
  | nil => rfl
  | cons entry entries ih =>
    rw [List.foldlM_cons, List.all_cons, ← store_isSome fields s]
    cases hstore : store fields s entry with
    | none => rfl
    | some t => exact ih t

lemma mem_of_lookup {fields : List (StructField σ)} {key : String} {f : StructField σ}
    (h : lookup fields key = some f) : f ∈ fields ∧ foldName f.name = foldName key := by
  rcases Option.or_eq_some_iff.mp h with h | ⟨-, h⟩
  · have hname := List.find?_some h
    exact ⟨List.mem_of_find?_eq_some h, congrArg foldName (of_decide_eq_true hname)⟩
  · have hname := List.find?_some h
    exact ⟨List.mem_of_find?_eq_some h, of_decide_eq_true hname⟩

lemma lookup_eq_some {fields : List (StructField σ)} (hnodup : (fields.map fun f => foldName f.name).Nodup)
    {key : String} {f : StructField σ} (hf : f ∈ fields) (hname : foldName f.name = foldName key) :
    lookup fields key = some f := by
  have hsome : (lookup fields key).isSome := by
    have hfold : (fields.find? fun f => foldName f.name = foldName key).isSome :=
      List.find?_isSome.mpr ⟨f, hf, decide_eq_true hname⟩
    rw [lookup, Option.isSome_or, hfold, Bool.or_true]
  obtain ⟨g, hg⟩ := Option.isSome_iff_exists.mp hsome
  obtain ⟨hmem, hfold⟩ := mem_of_lookup hg
  rw [hg, List.inj_on_of_nodup_map hnodup hmem hf (hfold.trans hname.symm)]

lemma store_of_mem {fields : List (StructField σ)} (hnodup : (fields.map fun f => foldName f.name).Nodup)
    {f : StructField σ} (hf : f ∈ fields) (s : σ) (v : Json) : store fields s (f.name, v) = f.run s v := by
  rw [store, lookup_eq_some hnodup hf rfl]

lemma accepts_iff {fields : List (StructField σ)} (hnodup : (fields.map fun f => foldName f.name).Nodup)
    (entry : String × Json) :
    accepts fields entry = true ↔
      ∀ f ∈ fields, foldName f.name = foldName entry.1 → f.fits entry.2 = true := by
  unfold accepts
  constructor
  · intro h f hf hname
    rwa [lookup_eq_some hnodup hf hname] at h
  · intro h
    cases hlookup : lookup fields entry.1 with
    | none => rfl
    | some f =>
      obtain ⟨hf, hname⟩ := mem_of_lookup hlookup
      exact h f hf hname

lemma foldlM_store_invariant {fields : List (StructField σ)} {P : σ → Prop} {entries : List (String × Json)}
    (hstep : ∀ entry ∈ entries, ∀ f ∈ fields, foldName f.name = foldName entry.1 →
      ∀ s t, P s → f.run s entry.2 = some t → P t)
    {s t : σ} (hs : P s) (h : entries.foldlM (store fields) s = some t) : P t := by
  induction entries generalizing s with
  | nil =>
    cases h
    exact hs
  | cons entry entries ih =>
    rw [List.foldlM_cons] at h
    obtain ⟨s₁, hstore, hrest⟩ := Option.bind_eq_some_iff.mp h
    refine ih (fun later hlater => hstep later (List.mem_cons_of_mem _ hlater)) ?_ hrest
    unfold store at hstore
    cases hlookup : lookup fields entry.1 with
    | none =>
      rw [hlookup] at hstore
      cases hstore
      exact hs
    | some f =>
      rw [hlookup] at hstore
      obtain ⟨hf, hname⟩ := mem_of_lookup hlookup
      exact hstep entry List.mem_cons_self f hf hname s s₁ hs hstore

end StructField

namespace Decoder

variable {σ : Type}

def struct (fields : List (StructField σ)) : Decoder σ where
  fits
    | .null => true
    | .obj entries => entries.all (StructField.accepts fields)
    | _ => false
  run s
    | .null => some s
    | .obj entries => entries.foldlM (StructField.store fields) s
    | _ => none
  run_isSome s v := by
    cases v with
    | obj entries => exact StructField.foldlM_store_isSome fields s entries
    | _ => rfl

/-- `json.Unmarshal` into a fresh variable. -/
def unmarshal (d : Decoder σ) (zero : σ) (bytes : List UInt8) : Option σ :=
  (Json.parse bytes).bind (d.run zero)

end Decoder

end MailBaby.Lib
