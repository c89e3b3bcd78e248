import MailBaby.Driver.MemoryQueue

/-!
# The steps of `Publish`

What a call of `Publish` on the memory queue, and the goroutine that it leaves behind, can do in one step.
-/

namespace MailBaby.MemoryQueue

variable {name : String} {trace : Headers} {s s' : State} {p p' : Publish}

def Publish.begun (name : String) (trace : Headers) (s : State) (p : Publish) (m : Message) : Publish :=
  { p with
    item := (Memory.prepare name trace m p.opts).clone
    ctx := p.ctx.withTimeout s.now (publishOptions p.opts).timeout }

inductive PublishStep (name : String) (trace : Headers) (s : State) (p : Publish) : State → Publish → Prop
  | failed (err : GoError) (hcaller : p.caller = .entered) :
      PublishStep name trace s p s { p with caller := .returned (some err) }
  | admitted (hcaller : p.caller = .entered) (hopen : s.closed = false) :
      PublishStep name trace s p s { p with caller := .admitted }
  | registered (m : Message) (hcaller : p.caller = .admitted) (hmsg : p.msg = some m) :
      PublishStep name trace s p { s with delayedWg := s.delayedWg + 1 }
        { p.begun name trace s m with caller := .returning none, delayed := .spawned }
  | started (m : Message) (hcaller : p.caller = .admitted) (hmsg : p.msg = some m) :
      PublishStep name trace s p s { p.begun name trace s m with caller := .checking }
  | refused (err : GoError) (hcaller : p.caller = .checking) :
      PublishStep name trace s p s { p with caller := .returning (some err) }
  | passed (hcaller : p.caller = .checking) : PublishStep name trace s p s { p with caller := .sending }
  | shut (hcaller : p.caller = .sending) (hclosed : s.channelClosed = true) :
      PublishStep name trace s p s { p with caller := .returning (some errQueueClosed) }
  | placed (hcaller : p.caller = .sending) (hopen : s.channelClosed = false) :
      PublishStep name trace s p (s.push p) { p with caller := .returning none }
  | returned (err : Option GoError) (hcaller : p.caller = .returning err) :
      PublishStep name trace s p s { p with ctx.cancelled := p.ctx.deadline.isSome, caller := .returned err }
  | timer (hdelayed : p.delayed = .spawned) :
      PublishStep name trace s p s { p with delayed := .waiting (s.now + p.item.delay) }
  | fired (fires : Time) (hdelayed : p.delayed = .waiting fires) :
      PublishStep name trace s p s { p with delayed := .checking }
  | abandoned (fires : Time) (err : GoError) (hdelayed : p.delayed = .waiting fires)
      (hdone : p.ctx.err s.now = some err) :
      PublishStep name trace s p { s with delayedWg := s.delayedWg - 1 } { p with delayed := .ended (some err) }
  | delayedRefused (err : GoError) (hdelayed : p.delayed = .checking) (hdone : p.ctx.err s.now = some err) :
      PublishStep name trace s p { s with delayedWg := s.delayedWg - 1 } { p with delayed := .ended (some err) }
  | delayedPassed (hdelayed : p.delayed = .checking) :
      PublishStep name trace s p s { p with delayed := .sending }
  | delayedShut (hdelayed : p.delayed = .sending) (hclosed : s.channelClosed = true) :
      PublishStep name trace s p { s with delayedWg := s.delayedWg - 1 }
        { p with delayed := .ended (some errQueueClosed) }
  | delayedPlaced (hdelayed : p.delayed = .sending) (hopen : s.channelClosed = false) :
      PublishStep name trace s p { s.push p with delayedWg := s.delayedWg - 1 } { p with delayed := .ended none }
  | cancelled : PublishStep name trace s p s { p with ctx.callerDone := true }
  | ticked (d : Nat) : PublishStep name trace s p { s with now := s.now + d } p

lemma publishStep_of_stepCaller (h : stepCaller name trace s p = some (s', p')) :
    PublishStep name trace s p s' p' := by
  unfold stepCaller at h
  split at h
  · cases h
    exact .failed _ (by assumption)
  · split at h <;> cases h
    · exact .failed _ (by assumption)
    · exact .admitted (by assumption) (by simp_all)
  · dsimp only at h
    split at h <;> cases h
    · exact .registered _ (by assumption) (by assumption)
    · exact .started _ (by assumption) (by assumption)
  · split at h <;> cases h
    · exact .refused _ (by assumption)
    · exact .passed (by assumption)
  · split at h <;> cases h
    · exact .shut (by assumption) (by assumption)
    · exact .placed (by assumption) (by simp_all)
  · cases h
    exact .returned _ (by assumption)
  · cases h

lemma publishStep_of_stepGoroutine (h : stepGoroutine s p = some (s', p')) :
    PublishStep name trace s p s' p' := by
  unfold stepGoroutine at h
  split at h
  · cases h
    exact .timer (by assumption)
  · split at h <;> cases h
    exact .fired _ (by assumption)
  · split at h <;> cases h
    · exact .delayedRefused _ (by assumption) (by assumption)
    · exact .delayedPassed (by assumption)
  · split at h <;> cases h
    · exact .delayedShut (by assumption) (by assumption)
    · exact .delayedPlaced (by assumption) (by simp_all)
  · cases h

lemma publishStep_of_stepPublish {a : Action} (h : stepPublish name trace s p a = some (s', p')) :
    PublishStep name trace s p s' p' := by
  cases a with
  | proceed => exact publishStep_of_stepCaller h
  | goroutine => exact publishStep_of_stepGoroutine h
  | abandon =>
    simp only [stepPublish, stepAbandon] at h
    split at h <;> cases h
    exact .abandoned _ _ (by assumption) (by assumption)
  | giveUp => cases h
  | cancel =>
    cases h
    exact .cancelled
  | tick d =>
    cases h
    exact .ticked d

end MailBaby.MemoryQueue
