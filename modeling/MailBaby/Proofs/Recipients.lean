import MailBaby.Lib.Fold
import MailBaby.Lib.Unique
import MailBaby.Proofs.Sending

/-!
# The recipients of an email

`AllRecipients` is the loop that keeps the first address of every lower-case form.
-/

namespace MailBaby.Proofs

open Lib MailBaby.Sender

def addressees (email : Email) : List String := email.toAddrs ++ email.cc ++ email.bcc

/-- The address that the parser reads, and otherwise the trimmed text. -/
def addrSpec (codec : Codec) (addr : String) : String :=
  match codec.parseAddress addr with
  | .ok address => address
  | .error _ => trimSpace addr

/-- What the list of all recipients is for. -/
structure Consolidated (codec : Codec) (email : Email) : Prop where
  order : allRecipients codec email = firsts toLower (((addressees email).map (addrSpec codec)).filter (· ≠ ""))
  distinct : ((allRecipients codec email).map toLower).Nodup
  complete : ∀ addr ∈ addressees email, addrSpec codec addr ≠ "" →
    ∃ r ∈ allRecipients codec email, toLower r = toLower (addrSpec codec addr)
  origin : ∀ r ∈ allRecipients codec email, ∃ addr ∈ addressees email, r = addrSpec codec addr
  accepted : email.validate codec = none → allRecipients codec email ≠ [] ∧
    ∀ r ∈ allRecipients codec email, ∃ addr ∈ addressees email, codec.parseAddress addr = .ok r

namespace Recipients

variable {codec : Codec} {email : Email}

lemma allRecipients_eq (codec : Codec) (email : Email) :
    allRecipients codec email =
      firsts toLower (((addressees email).map (cleanAddress codec)).filter (· ≠ "")) := by
  have hstep : ∀ (addrs result : List String), addrs.foldl (addRecipient codec) result =
      ((addrs.map (cleanAddress codec)).filter (· ≠ "")).foldl (addUnique toLower) result := by
    intro addrs
    induction addrs with
    | nil =>
      intro result
      rw [List.map_nil, List.filter_nil, List.foldl_nil, List.foldl_nil]
    | cons addr addrs ih =>
      intro result
      rw [List.foldl_cons, ih, List.map_cons]
      by_cases hempty : cleanAddress codec addr = ""
      · rw [List.filter_cons_of_neg (by simpa using hempty)]
        simp [addRecipient, hempty]
      · have hadd : addRecipient codec result addr = addUnique toLower result (cleanAddress codec addr) := by
          unfold addRecipient addUnique
          simp [hempty]
        rw [List.filter_cons_of_pos (by simpa using hempty), List.foldl_cons, hadd]
  change (addressees email).foldl (addRecipient codec) [] = _
  rw [hstep, foldl_addUnique]
  simp

lemma mem_allRecipients {r : String} (h : r ∈ allRecipients codec email) :
    r ≠ "" ∧ ∃ addr ∈ addressees email, cleanAddress codec addr = r := by
  rw [allRecipients_eq] at h
  obtain ⟨hmem, hne⟩ := List.mem_filter.mp ((firsts_sublist _).subset h)
  exact ⟨of_decide_eq_true hne, List.mem_map.mp hmem⟩

lemma exists_recipient {addr : String} (haddr : addr ∈ addressees email) (hne : cleanAddress codec addr ≠ "") :
    ∃ r ∈ allRecipients codec email, toLower r = toLower (cleanAddress codec addr) := by
  rw [allRecipients_eq]
  exact exists_mem_firsts (List.mem_filter.mpr ⟨List.mem_map_of_mem haddr, by simpa using hne⟩)

lemma trimSpace_cleanAddress (codec : Codec) (addr : String) :
    trimSpace (cleanAddress codec addr) = cleanAddress codec addr := trimSpace_trimSpace _

def Trimmed (codec : Codec) (email : Email) : Prop :=
  ∀ addr ∈ addressees email, ∀ address, codec.parseAddress addr = .ok address → trimSpace address = address

lemma cleanAddress_eq (h : Trimmed codec email) {addr : String} (haddr : addr ∈ addressees email) :
    cleanAddress codec addr = addrSpec codec addr := by
  unfold cleanAddress addrSpec
  cases hparse : codec.parseAddress addr with
  | ok address => exact h addr haddr address hparse
  | error err => rfl

end Recipients

open Recipients

/-- The recipients are what they are meant to be exactly if there is nothing to trim from the addresses that
the parser has read. -/
theorem recipients_consolidated_iff (codec : Codec)
    (hparse : ∀ addr address, codec.parseAddress addr = .ok address → address ≠ "") (email : Email) :
    Consolidated codec email ↔
      ∀ addr ∈ addressees email, ∀ address, codec.parseAddress addr = .ok address →
        trimSpace address = address := by
  constructor
  · intro h addr haddr address hok
    have hspec : addrSpec codec addr = address := by
      rw [addrSpec, hok]
    obtain ⟨r, hr, hsame⟩ := h.complete addr haddr (hspec ▸ hparse addr address hok)
    obtain ⟨-, source, -, rfl⟩ := mem_allRecipients hr
    rw [hspec] at hsame
    exact trimSpace_of_toLower_eq hsame.symm (trimSpace_cleanAddress codec source)
  · intro htrimmed
    have hclean : (addressees email).map (cleanAddress codec) = (addressees email).map (addrSpec codec) :=
      List.map_congr_left fun addr haddr => cleanAddress_eq htrimmed haddr
    have horder := allRecipients_eq codec email
    refine ⟨hclean ▸ horder, ?_, ?_, ?_, ?_⟩
    · rw [horder]
      exact nodup_map_firsts _
    · intro addr haddr hne
      rw [← cleanAddress_eq htrimmed haddr] at hne ⊢
      exact exists_recipient haddr hne
    · intro r hr
      obtain ⟨-, addr, haddr, rfl⟩ := mem_allRecipients hr
      exact ⟨addr, haddr, cleanAddress_eq htrimmed haddr⟩
    · intro hvalid
      obtain ⟨hne, hall⟩ := recipients_of_validate hvalid
      have hspec : ∀ {addr address : String}, addr ∈ addressees email → codec.parseAddress addr = .ok address →
          cleanAddress codec addr = address := by
        intro addr address haddr hok
        rw [cleanAddress_eq htrimmed haddr, addrSpec, hok]
      constructor
      · obtain ⟨addr, haddr⟩ := List.exists_mem_of_ne_nil _ hne
        obtain ⟨address, hok⟩ := hall addr haddr
        obtain ⟨r, hr, -⟩ := exists_recipient haddr ((hspec haddr hok).symm ▸ hparse addr address hok)
        exact List.ne_nil_of_mem hr
      · intro r hr
        obtain ⟨-, addr, haddr, rfl⟩ := mem_allRecipients hr
        obtain ⟨address, hok⟩ := hall addr haddr
        exact ⟨addr, haddr, (hspec haddr hok).symm ▸ hok⟩

def fannedOut : Email :=
  { toAddrs := ["Bob <bob@example.org>", "ann@example.org"], cc := [" BOB@example.org "], bcc := ["eve@example.org"] }

lemma ne_empty_of_mailCodec {addr address : String} (h : mailCodec.parseAddress addr = .ok address) :
    address ≠ "" := by
  rintro rfl
  apply cleanAddress_ne_empty readsAddress_mailCodec h
  rw [cleanAddress, h]
  exact (by decide : trimSpace "" = "")

theorem recipients_consolidated_fannedOut :
    allRecipients mailCodec fannedOut = ["bob@example.org", "ann@example.org", "eve@example.org"] ∧
      Consolidated mailCodec fannedOut := by
  have hall : (addressees fannedOut).all (fun addr => (mailCodec.parseAddress addr).toOption.all
      fun address => trimSpace address = address) = true := by decide +kernel
  refine ⟨by decide +kernel,
    (recipients_consolidated_iff mailCodec (fun _ _ => ne_empty_of_mailCodec) fannedOut).mpr ?_⟩
  intro addr haddr address hok
  have hone := List.all_eq_true.mp hall addr haddr
  rw [hok] at hone
  exact of_decide_eq_true hone

def blankLocalPart : Email := { toAddrs := ["\" ann\"@example.org"], subject := "Hello" }

/-- The validated email goes to another address than the one it names. -/
theorem recipients_other_address :
    blankLocalPart.validate mailCodec = none ∧
      mailCodec.parseAddress "\" ann\"@example.org" = .ok " ann@example.org" ∧
      allRecipients mailCodec blankLocalPart = ["ann@example.org"] ∧ ¬Consolidated mailCodec blankLocalPart := by
  have hvalid : blankLocalPart.validate mailCodec = none := Option.isNone_iff_eq_none.mp (by decide +kernel)
  have hread : Address.bareAddress "\" ann\"@example.org" = some " ann@example.org" := by decide +kernel
  have hok : mailCodec.parseAddress "\" ann\"@example.org" = .ok " ann@example.org" := by
    dsimp only [mailCodec, Codec.standard, readAddress]
    rw [hread]
  have hall : allRecipients mailCodec blankLocalPart = ["ann@example.org"] := by decide +kernel
  refine ⟨hvalid, hok, hall, fun h => ?_⟩
  obtain ⟨addr, haddr, hparsed⟩ := (h.accepted hvalid).2 "ann@example.org" (hall ▸ List.mem_singleton_self _)
  obtain rfl : addr = "\" ann\"@example.org" := List.mem_singleton.mp haddr
  rw [hok] at hparsed
  exact absurd (Except.ok.inj hparsed) (by decide +kernel)

end MailBaby.Proofs
