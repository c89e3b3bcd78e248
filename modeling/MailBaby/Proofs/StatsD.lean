import MailBaby.Metrics.StatsD
import MailBaby.Proofs.Labels

/-!
# What the StatsD client sends

A label keeps its colons and bars, and a line is appended before the length of the buffer is looked at. Apart from
that lines are well formed, and the datagrams carry all of them in order.
-/

namespace MailBaby.Metrics

open Lib

/-! ### Lines -/

variable {sha256 : Bytes → Bytes} {fmt : FloatFormat} {t rest : List Char} {c : Char}

lemma undelimited_append {s t : List Char} : Undelimited (s ++ t) ↔ Undelimited s ∧ Undelimited t :=
  List.forall_mem_append

lemma readField_append (ht : Undelimited t) (hc : isDelimiter c = true) :
    readField c (t ++ c :: rest) = some (t, rest) := by
  have hplain : ∀ d ∈ t, (!isDelimiter d) = true := fun d hd => by rw [ht d hd]; rfl
  unfold readField
  rw [List.dropWhile_append_of_pos hplain, List.takeWhile_append_of_pos hplain, List.dropWhile_cons_of_neg (by simp [hc]),
    List.takeWhile_cons_of_neg (by simp [hc]), List.append_nil]
  exact if_pos rfl

lemma undelimited_of_readField {p : List Char × List Char} (h : readField c t = some p) : Undelimited p.1 := by
  unfold readField at h
  split at h
  · obtain rfl := Option.some.inj h
    intro d hd
    simpa using List.mem_takeWhile_imp hd
  · cases h

lemma undelimited_of_parseMetric {m : ParsedMetric} (h : parseMetric t = some m) : Undelimited m.name := by
  unfold parseMetric at h
  simp only [Option.bind_eq_bind, Option.bind_eq_some_iff] at h
  obtain ⟨name, hname, value, -, kind, -, h⟩ := h
  split at h
  · obtain rfl := Option.some.inj h
    exact undelimited_of_readField hname
  · cases h

lemma undelimited_intText (n : Int) : Undelimited (Json.intText n) := by
  have hdigits := Json.forall_mem_natText (P := fun c => isDelimiter c = false) (by decide) n.natAbs
  unfold Json.intText
  split
  · exact List.forall_mem_cons.mpr ⟨rfl, hdigits⟩
  · exact hdigits

lemma not_mem_sanitizeLabel (v : String) : '\n' ∉ (sanitizeLabel sha256 v).toList := by
  unfold sanitizeLabel
  dsimp only
  split
  · decide
  · split
    · rw [String.toList_append, List.mem_append, not_or]
      refine ⟨by decide, fun h => ?_⟩
      rw [String.toList_ofList] at h
      exact Hex.forall_mem_encode (P := (· ≠ '\n')) (by decide) _ _ h rfl
    · rw [String.toList_ofList]
      exact fun h => Bool.false_ne_true (List.mem_filter.mp h).2

/-- What the recorders see to. -/
structure Stat.Sound (st : Stat) : Prop where
  base : Undelimited st.base.toList
  labels : ∀ label ∈ st.labels, '\n' ∉ label.toList
  value : Undelimited st.value
  kind : Undelimited st.kind.toList

lemma stat_sound {base kind : String} {value : List Char} (labels : List String)
    (hbase : base.toList.all (fun c => !isDelimiter c) = true) (hvalue : Undelimited value)
    (hkind : kind.toList.all (fun c => !isDelimiter c) = true) :
    Stat.Sound ⟨base, labels.map (sanitizeLabel sha256), value, kind⟩ := by
  refine ⟨fun c hc => ?_, fun label hlabel => ?_, hvalue, fun c hc => ?_⟩
  · simpa using List.all_eq_true.mp hbase c hc
  · obtain ⟨v, -, rfl⟩ := List.mem_map.mp hlabel
    exact not_mem_sanitizeLabel v
  · simpa using List.all_eq_true.mp hkind c hc

lemma sound_of_mem_stats {r : Recorder} {st : Stat} (h : st ∈ r.stats sha256 fmt) : st.Sound := by
  cases r with
  | addEmailRecipients account rcptType n | addEmailBytes account n =>
    rw [Recorder.stats] at h
    split at h
    · cases h
    · rw [List.mem_singleton.mp h]
      exact stat_sound _ (by decide) (undelimited_intText _) (by decide)
  | setSmtpPoolStats account active idle =>
    obtain rfl | h := List.mem_cons.mp h
    · exact stat_sound _ (by decide) (fmt.ofInt active).undelimited (by decide)
    · rw [List.mem_singleton.mp h]
      exact stat_sound _ (by decide) (fmt.ofInt idle).undelimited (by decide)
  | observeEmailDuration account d | observeQueueProcessDuration driver topic d =>
    rw [List.mem_singleton.mp h]
    exact stat_sound _ (by decide) (fmt.millis d).undelimited (by decide)
  | setQueueDepth driver topic value | setQueueInFlight driver topic value =>
    rw [List.mem_singleton.mp h]
    exact stat_sound _ (by decide) value.undelimited (by decide)
  | _ =>
    rw [List.mem_singleton.mp h]
    exact stat_sound _ (by decide) (undelimited_intText _) (by decide)

/-- A label without a colon and without a bar. -/
def PlainLabel (label : String) : Prop := ∀ c ∈ label.toList, c ≠ ':' ∧ c ≠ '|'

lemma undelimited_name_iff {st : Stat} (hst : st.Sound) : Undelimited st.name ↔ ∀ label ∈ st.labels, PlainLabel label := by
  have hlabel : ∀ label ∈ st.labels, (Undelimited ('.' :: label.toList) ↔ PlainLabel label) := by
    intro label hmem
    have hbreak : ∀ c ∈ label.toList, c ≠ '\n' := fun c hc hbreak => hst.labels label hmem (hbreak ▸ hc)
    rw [Undelimited, List.forall_mem_cons, and_iff_right (by decide)]
    refine forall₂_congr fun c hc => ?_
    simp [isDelimiter, hbreak c hc]
  rw [Stat.name, undelimited_append, and_iff_right hst.base]
  unfold Undelimited
  simp only [List.mem_flatMap, forall_exists_index, and_imp]
  constructor
  · intro h label hmem
    exact (hlabel label hmem).mp fun c hc => h c label hmem hc
  · intro h c label hmem hc
    exact (hlabel label hmem).mpr (h label hmem) c hc

lemma parse_line_iff {pre : List Char} (hpre : Undelimited pre) {st : Stat} (hst : st.Sound) :
    parseMetric (st.line pre) = some ⟨pre ++ st.name, st.value, st.kind.toList⟩ ↔
      ∀ label ∈ st.labels, PlainLabel label := by
  rw [← undelimited_name_iff hst]
  constructor
  · intro h
    exact (undelimited_append.mp (undelimited_of_parseMetric h)).2
  · intro h
    unfold parseMetric Stat.line
    rw [readField_append (undelimited_append.mpr ⟨hpre, h⟩) rfl]
    simp only [Option.bind_eq_bind, Option.bind_some]
    rw [readField_append hst.value rfl]
    simp only [Option.bind_some]
    rw [readField_append hst.kind rfl]
    rfl

/-! ### Datagrams -/

namespace StatsDClient

variable {s s' : StatsDClient} {a : Action}

structure Sound (s : StatsDClient) : Prop where
  lines : ∃ (groups : List (List Bytes)) (pending : List Bytes), s.datagrams = groups.map List.flatten ∧
    groups.flatten ++ pending = s.accepted ∧ pending.flatten = s.buf
  stop : s.loop = .stopping ∨ s.loop = .done → s.stop = true
  closed : s.stop = true → s.closed = true
  marked : s.closing ≠ .idle → s.closed = true
  done : s.loop = .done → s.buf = []
  returned : s.closing = .returned → s.loop = .done

lemma Sound.buf_of_returned (hs : s.Sound) (h : s.closing = .returned) : s.buf = [] := hs.done (hs.returned h)

lemma Sound.not_done (hs : s.Sound) (hopen : s.closed = false) : s.loop ≠ .done := by
  intro hdone
  rw [hs.closed (hs.stop (.inr hdone))] at hopen
  cases hopen

/-- A flush moves what is in the buffer to the socket. -/
lemma Sound.flushLocked_eq (hs : s.Sound) :
    s.flushLocked = { s with datagrams := s.datagrams ++ if s.buf = [] then [] else [s.buf], buf := [] } := by
  unfold flushLocked
  by_cases hempty : s.buf = []
  · rw [if_pos hempty, if_pos hempty, List.append_nil, ← hempty]
  · rw [if_neg hempty, if_neg hempty, if_neg fun h => hempty (hs.buf_of_returned h)]

lemma Sound.flushed (hs : s.Sound) : s.flushLocked.Sound ∧ s.flushLocked.buf = [] := by
  rw [hs.flushLocked_eq]
  refine ⟨{ hs with lines := ?_, done := fun _ => rfl }, rfl⟩
  obtain ⟨groups, pending, hgroups, haccepted, hbuf⟩ := hs.lines
  by_cases hempty : s.buf = []
  · exact ⟨groups, pending, by simpa [hempty] using hgroups, haccepted, hbuf.trans hempty⟩
  · exact ⟨groups ++ [pending], [], by simp [hempty, hgroups, hbuf], by simpa using haccepted, rfl⟩

/-- The buffer after a line was appended. -/
def append (s : StatsDClient) (line : Bytes) : StatsDClient :=
  { s with buf := s.buf ++ line, accepted := s.accepted ++ [line] }

lemma Sound.append (hs : s.Sound) (hopen : s.closed = false) (line : Bytes) : (s.append line).Sound := by
  refine { hs with lines := ?_, done := fun hdone => absurd hdone (hs.not_done hopen) }
  obtain ⟨groups, pending, hgroups, haccepted, hbuf⟩ := hs.lines
  exact ⟨groups, pending ++ [line], hgroups, by rw [← List.append_assoc, haccepted]; rfl,
    by rw [List.flatten_append, hbuf]; exact congrArg (s.buf ++ ·) (List.append_nil line)⟩

lemma send_of_open (hopen : s.closed = false) (line : Bytes) :
    s.send line = if (s.buf ++ line).length > datagramLimit then (s.append line).flushLocked else s.append line := by
  unfold send
  rw [if_neg (by simp [hopen])]
  rfl

/-- What a step writes: nothing, or the buffer, or a buffer that a line has made too long. -/
inductive Written (s s' : StatsDClient) (a : Action) : Prop
  | nothing (hfits : s.Fits a) (h : s'.datagrams = s.datagrams) (hbuf : s'.buf = s.buf ∨ s'.buf.length ≤ datagramLimit)
  | buffer (hfits : s.Fits a) (h : s'.datagrams = s.datagrams ++ if s.buf = [] then [] else [s.buf]) (hbuf : s'.buf = [])
  | overflow (hfits : ¬s.Fits a) (d : Bytes) (hd : datagramLimit < d.length) (h : s'.datagrams = s.datagrams ++ [d])
      (hbuf : s'.buf = [])

lemma send_spec (hs : s.Sound) (line : Bytes) : (s.send line).Sound ∧ Written s (s.send line) (.send line) := by
  cases hopen : s.closed with
  | true =>
    rw [send, if_pos hopen]
    exact ⟨hs, .nothing (.inl hopen) rfl (.inl rfl)⟩
  | false =>
    have happend := hs.append hopen line
    rw [send_of_open hopen]
    split <;> rename_i hlong
    · refine ⟨happend.flushed.1, ?_⟩
      have hne : s.buf ++ line ≠ [] := fun h => by simp [h] at hlong
      rw [happend.flushLocked_eq, show (s.append line).buf = s.buf ++ line from rfl, if_neg hne]
      refine .overflow ?_ _ hlong rfl rfl
      rintro (hclosed | hshort)
      · exact Bool.false_ne_true (hopen.symm.trans hclosed)
      · exact absurd hshort (Nat.not_le.mpr hlong)
    · exact ⟨happend, .nothing (.inr (Nat.not_lt.mp hlong)) rfl (.inr (Nat.not_lt.mp hlong))⟩

lemma step_spec (hs : s.Sound) (h : s.step a = some s') : s'.Sound ∧ Written s s' a := by
  cases a with
  | send line =>
    cases h
    exact send_spec hs line
  | flush =>
    cases h
    refine ⟨hs.flushed.1, ?_⟩
    rw [hs.flushLocked_eq]
    exact .buffer trivial rfl rfl
  | close =>
    cases h
    unfold close
    split
    · exact ⟨hs, .nothing trivial rfl (.inl rfl)⟩
    · refine ⟨?_, .nothing trivial rfl (.inl rfl)⟩
      exact { hs with closed := fun _ => rfl, marked := fun _ => rfl, returned := fun h => by cases h }
  | proceed =>
    have hclosed : s.closing ≠ .idle → s.closed = true := hs.marked
    unfold step at h
    cases hclosing : s.closing <;> rw [hclosing] at h hclosed <;> dsimp only at h
    case marked =>
      cases h
      refine ⟨?_, .nothing trivial rfl (.inl rfl)⟩
      exact
        { hs with
          stop := fun _ => rfl
          closed := fun _ => hclosed Closing.noConfusion
          marked := fun _ => hclosed Closing.noConfusion
          returned := fun h => by cases h }
    case waiting =>
      split at h <;> rename_i hdone <;> cases h
      refine ⟨?_, .nothing trivial rfl (.inl rfl)⟩
      exact { hs with marked := fun _ => hclosed Closing.noConfusion, returned := fun _ => hdone }
    all_goals cases h
  | tick =>
    unfold step at h
    dsimp only at h
    split at h <;> rename_i hloop <;> cases h
    refine ⟨?_, .nothing trivial rfl (.inl rfl)⟩
    exact
      { hs with
        stop := by rintro (h | h) <;> cases h
        done := fun h => by cases h
        returned := fun h => by cases hloop.symm.trans (hs.returned h) }
  | halt =>
    unfold step at h
    dsimp only at h
    split at h <;> rename_i hboth <;> cases h
    refine ⟨?_, .nothing trivial rfl (.inl rfl)⟩
    exact
      { hs with
        stop := fun _ => hboth.2
        done := fun h => by cases h
        returned := fun h => by cases hboth.1.symm.trans (hs.returned h) }
  | loopFlush =>
    obtain ⟨hflushed, hbuf⟩ := hs.flushed
    unfold step at h
    rw [hs.flushLocked_eq] at h hflushed hbuf
    cases hloop : s.loop <;> rw [hloop] at h
    case ticked =>
      cases h
      refine ⟨?_, .buffer trivial rfl rfl⟩
      exact
        { hflushed with
          stop := by rintro (h | h) <;> cases h
          done := fun h => by cases h
          returned := fun h => by cases hloop.symm.trans (hs.returned h) }
    case stopping =>
      cases h
      refine ⟨?_, .buffer trivial rfl rfl⟩
      exact { hflushed with stop := fun _ => hs.stop (.inl hloop), done := fun _ => hbuf, returned := fun _ => rfl }
    all_goals cases h

lemma Written.short (h : Written s s' a) (hs : s.buf.length ≤ datagramLimit) : s'.buf.length ≤ datagramLimit := by
  cases h with
  | nothing hfits h hbuf =>
    obtain hbuf | hbuf := hbuf
    · rwa [hbuf]
    · exact hbuf
  | buffer hfits h hbuf | overflow hfits d hd h hbuf =>
    rw [hbuf]
    exact Nat.zero_le _

lemma Written.inLimit_iff (h : Written s s' a) (hs : s.buf.length ≤ datagramLimit) :
    s'.InLimit ↔ s.InLimit ∧ s.Fits a := by
  unfold InLimit
  cases h with
  | nothing hfits h => rw [h, and_iff_left hfits]
  | buffer hfits h =>
    rw [h, and_iff_left hfits, List.forall_mem_append, and_iff_left]
    intro d hd
    split at hd
    · cases hd
    · rwa [List.mem_singleton.mp hd]
  | overflow hfits d hd h =>
    rw [h, List.forall_mem_append, List.forall_mem_singleton]
    exact iff_of_false (fun h => Nat.not_le.mpr hd h.2) fun h => hfits h.2

end StatsDClient

end MailBaby.Metrics

namespace MailBaby.Proofs

open Lib Metrics

/-- A call of a recorder sends well-formed lines exactly if no label keeps a colon or a bar. -/
theorem statsd_lines_iff (sha256 : Bytes → Bytes) (fmt : FloatFormat) (pre : List Char) (hpre : Undelimited pre)
    (r : Recorder) :
    (∀ st ∈ r.stats sha256 fmt,
        parseMetric (st.line pre) = some ⟨pre ++ st.name, st.value, st.kind.toList⟩) ↔
      ∀ st ∈ r.stats sha256 fmt, ∀ label ∈ st.labels, PlainLabel label :=
  forall₂_congr fun _ hst => parse_line_iff hpre (sound_of_mem_stats hst)

def zeroFormat : FloatFormat := ⟨fun _ => ⟨['0'], by decide⟩, fun _ => ⟨['0'], by decide⟩⟩

theorem statsd_lines_iff_plain :
    Undelimited "mb.".toList ∧ ∀ st ∈ (Recorder.addEmailBytes "ops" 512).stats id zeroFormat,
      parseMetric (st.line "mb.".toList) = some ⟨"mb.".toList ++ st.name, st.value, st.kind.toList⟩ := by
  have hlabel : sanitizeLabel id "ops" = "ops" :=
    Labels.sanitizeLabel_of_plain (by decide) (by decide) (by decide) (by decide)
  have hpre : Undelimited "mb.".toList := by decide
  refine ⟨hpre, (statsd_lines_iff id zeroFormat _ hpre _).mpr fun st hst label hmem => ?_⟩
  rw [List.mem_singleton.mp hst] at hmem
  rw [List.mem_singleton.mp hmem, hlabel]
  have hall : "ops".toList.all (fun c => decide (c ≠ ':' ∧ c ≠ '|')) = true := by decide
  exact fun c hc => of_decide_eq_true (List.all_eq_true.mp hall c hc)

/-- The account "a:1|c" makes a line that is no metric. -/
theorem statsd_label_splits_line :
    ((Recorder.incEmailsSent "a:1|c" "sent").stats id zeroFormat).map (Stat.line "mb.".toList) =
        ["mb.email.sent.a:1|c.sent:1|c\n".toList] ∧
      parseMetric "mb.email.sent.a:1|c.sent:1|c\n".toList = none := by
  have haccount : sanitizeLabel id "a:1|c" = "a:1|c" :=
    Labels.sanitizeLabel_of_plain (by decide) (by decide) (by decide) (by decide)
  have hstatus : sanitizeLabel id "sent" = "sent" :=
    Labels.sanitizeLabel_of_plain (by decide) (by decide) (by decide) (by decide)
  refine ⟨?_, by decide⟩
  simp only [Recorder.stats, Metrics.count, List.map_cons, List.map_nil, haccount, hstatus]
  decide

/-- The datagrams carry whole lines, after `Close` all of them, and keep to the limit exactly if no line has met a
buffer that is too full for it. -/
theorem statsd_datagrams_iff (schedule : List StatsDClient.Action) (s : StatsDClient)
    (hrun : run StatsDClient.step {} schedule = some s) :
    s.WholeLines ∧ (s.closing = .returned → s.datagrams.flatten = s.accepted.flatten) ∧
      (s.InLimit ↔ Along StatsDClient.step StatsDClient.Fits {} schedule) := by
  have hstart : StatsDClient.Sound {} :=
    { lines := ⟨[], [], rfl, rfl, rfl⟩
      stop := by rintro (h | h) <;> cases h
      closed := fun h => by cases h
      marked := fun h => absurd rfl h
      done := fun _ => rfl
      returned := fun h => by cases h }
  have hs := run_invariant (fun _ _ _ hs h => (StatsDClient.step_spec hs h).1) hstart hrun
  obtain ⟨groups, pending, hgroups, haccepted, hbuf⟩ := hs.lines
  refine ⟨⟨groups, hgroups, pending, haccepted⟩, fun hreturned => ?_, ?_⟩
  · have hpending : pending.flatten = [] := hbuf.trans (hs.buf_of_returned hreturned)
    rw [hgroups, ← haccepted, List.flatten_append, hpending, List.append_nil, List.flatten_flatten]
  · refine run_iff_along (I := fun s => s.Sound ∧ s.buf.length ≤ datagramLimit) ?_ ?_ ?_ ?_ ⟨hstart, Nat.zero_le _⟩
      (fun _ hd => (List.not_mem_nil hd).elim) hrun
    · exact fun _ _ _ hs h => ⟨(StatsDClient.step_spec hs.1 h).1, (StatsDClient.step_spec hs.1 h).2.short hs.2⟩
    · exact fun _ _ _ hs hlimit hfits h =>
        ((StatsDClient.step_spec hs.1 h).2.inLimit_iff hs.2).mpr ⟨hlimit, hfits⟩
    · exact fun _ _ _ hs hnot h hlimit =>
        hnot (((StatsDClient.step_spec hs.1 h).2.inLimit_iff hs.2).mp hlimit).2
    · exact fun _ _ _ hs hnot h hlimit =>
        hnot (((StatsDClient.step_spec hs.1 h).2.inLimit_iff hs.2).mp hlimit).1

theorem statsd_datagrams_iff_closed :
    ∃ s, run StatsDClient.step {} [.send [97, 10], .tick, .loopFlush, .send [98, 10], .close, .proceed, .halt,
        .loopFlush, .proceed] = some s ∧ s.closing = .returned ∧ s.WholeLines ∧ s.InLimit := by
  refine ⟨_, rfl, rfl, ?_⟩
  obtain ⟨hlines, -, hlimit⟩ := statsd_datagrams_iff [.send [97, 10], .tick, .loopFlush, .send [98, 10], .close,
    .proceed, .halt, .loopFlush, .proceed] _ rfl
  exact ⟨hlines, hlimit.mpr (by decide)⟩

def longLine : Bytes := List.replicate 799 97 ++ [10]

/-- Two lines of 800 bytes make a datagram of 1600. -/
theorem statsd_datagram_too_long :
    longLine.length = 800 ∧ ∃ s, run StatsDClient.step {} [.send longLine, .send longLine] = some s ∧
      s.datagrams = [longLine ++ longLine] ∧ ¬s.InLimit := by
  have hlength : longLine.length = 800 := by
    rw [longLine, List.length_append, List.length_replicate]
    rfl
  have hlong : (longLine ++ longLine).length > datagramLimit := by
    rw [List.length_append, hlength]
    decide
  have hfirst : ({} : StatsDClient).send longLine = StatsDClient.append {} longLine := by
    rw [StatsDClient.send_of_open rfl, List.nil_append, hlength]
    exact if_neg (by decide)
  have hsecond : (({} : StatsDClient).send longLine).send longLine =
      ((StatsDClient.append {} longLine).append longLine).flushLocked := by
    rw [hfirst, StatsDClient.send_of_open rfl]
    exact if_pos hlong
  have hne : longLine ++ longLine ≠ [] := fun h => by simp [h] at hlong
  have hdatagrams : ((({} : StatsDClient).send longLine).send longLine).datagrams = [longLine ++ longLine] := by
    rw [hsecond, StatsDClient.flushLocked]
    exact congrArg StatsDClient.datagrams (if_neg hne)
  refine ⟨hlength, _, rfl, hdatagrams, fun hlimit => ?_⟩
  exact Nat.not_le.mpr hlong (hlimit _ (hdatagrams ▸ List.mem_singleton_self _))

end MailBaby.Proofs
