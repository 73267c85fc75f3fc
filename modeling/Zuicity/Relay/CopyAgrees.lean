import Zuicity.Relay.Copy

/-!
# Reading ahead writes what the plain loop writes

`ReadAhead.outcome` is what a state comes to if the rest is done by the plain loop.  No event
changes it (`ReadAhead.outcome_step`), so that the order in which the futures complete does not
matter.
-/

namespace Zuicity

open List UInt64 Runs

namespace ReadAhead

section
variable (s : ReadAhead)

def readsLeft : Option (IoResult Nat) → List (IoResult Bytes)
  | none => s.reads
  | some (.ok n) => .ok ((s.buffers s.next).take n) :: s.reads
  | some (.error e) => .error e :: s.reads

/-- what the plain loop does from here, with the log of what was written before -/
def outcome : Copied :=
  Copied.after (match s.phase with
    | .firstRead => copyLoop s.stallTimeout s.flush s.reads s.writes s.copied
    | .writing left readResult => writeAll s.stallTimeout left s.writes fun writes =>
        copyLoop s.stallTimeout s.flush (s.readsLeft readResult) writes
          (s.copied + UInt64.ofNat s.currentLen)
    | .awaitingRead => copyLoop s.stallTimeout s.flush s.reads s.writes
        (s.copied + UInt64.ofNat s.currentLen)
    | .flushing => flushed s.flush s.copied
    | .returned exit => ⟨[], some exit⟩) s.written

def ahead : Bytes :=
  match s.phase with
  | .writing left (some (.ok _)) => left ++ s.buffers s.next
  | .writing left _ => left
  | _ => []

/-- the count, once the write future is done, is that of the bytes written -/
def Counted : Prop :=
  match s.phase with
  | .writing left _ =>
    s.copied + UInt64.ofNat s.currentLen = UInt64.ofNat (s.written.length + left.length)
  | .awaitingRead => s.copied + UInt64.ofNat s.currentLen = UInt64.ofNat s.written.length
  | .firstRead | .flushing => s.copied = UInt64.ofNat s.written.length
  | .returned (.copied n) => n = UInt64.ofNat s.written.length
  | .returned _ => True

def Buffered : Prop :=
  match s.phase with
  | .firstRead => s.buffers s.current = []
  | .writing _ none | .awaitingRead => s.buffers s.next = []
  | .writing _ (some (.ok n)) => (s.buffers s.next).length = n
  | _ => True

/-- the exit leaves bytes behind that were read and not written -/
def Failed : Prop :=
  match s.phase with
  | .returned (.writeFailed _) | .returned (.flushFailed _) => True
  | _ => False

/-- **The invariant**: unless a write failed, what was read is what was written and what is in the
buffers, and the count is that of the bytes. -/
structure Inv : Prop where
  buffered : s.Buffered
  read_eq : s.Failed ∨ s.read = s.written ++ s.ahead
  counted : s.Counted

end

variable {s : ReadAhead}

section
variable (s : ReadAhead)

section
variable (hlen : (s.buffers s.current).length = s.currentLen)
include hlen

lemma outcome_loopHead : s.loopHead.outcome
      = (copyLoop s.stallTimeout s.flush (.ok (s.buffers s.current) :: s.reads) s.writes
          s.copied).after s.written := by
  unfold loopHead
  rw [copyLoop, hlen]
  by_cases h0 : s.currentLen = 0
  · rw [if_pos h0, if_pos h0]
    rfl
  · rw [if_neg h0, if_neg h0]
    unfold outcome
    dsimp only [readsLeft]
    rw [take_of_length_le (Nat.le_of_eq hlen)]

lemma inv_loopHead (hread : s.read = s.written ++ s.buffers s.current)
    (hcount : s.copied = UInt64.ofNat s.written.length) : s.loopHead.Inv := by
  unfold loopHead
  by_cases h0 : s.currentLen = 0
  · have hnil : s.buffers s.current = [] := length_eq_zero_iff.mp (hlen.trans h0)
    rw [if_pos h0]
    rw [hnil] at hread
    exact ⟨trivial, .inr hread, hcount⟩
  · rw [if_neg h0]
    refine ⟨?_, .inr ?_, ?_⟩
    · exact Function.update_self _ _ _
    · show s.read = s.written ++ (s.buffers s.current).take s.currentLen
      rw [take_of_length_le (Nat.le_of_eq hlen)]
      exact hread
    · show s.copied + UInt64.ofNat s.currentLen
        = UInt64.ofNat (s.written.length + ((s.buffers s.current).take s.currentLen).length)
      rw [take_of_length_le (Nat.le_of_eq hlen), hlen, ofNat_add, hcount]

end

/-! ## the end of a round -/

def fetched : IoResult Nat → Bytes
  | .ok _ => s.buffers s.next
  | .error _ => []

variable (result : IoResult Nat)

/-- the next buffer holds as many bytes as the read says -/
def Fits : Prop :=
  ∀ n, result = .ok n → (s.buffers s.next).length = n

lemma outcome_takeRead (hfits : s.Fits result) : (s.takeRead result).outcome
      = (copyLoop s.stallTimeout s.flush (s.readsLeft (some result)) s.writes
          (s.copied + UInt64.ofNat s.currentLen)).after s.written := by
  cases result with
  | error e => rfl
  | ok n =>
    have hlen : (s.buffers s.next).length = n := hfits n rfl
    unfold takeRead roundDone
    dsimp only
    rw [outcome_loopHead _ hlen]
    dsimp only [readsLeft]
    rw [take_of_length_le (Nat.le_of_eq hlen)]

lemma inv_takeRead (hfits : s.Fits result) (hread : s.read = s.written ++ s.fetched result)
    (hcount : s.copied + UInt64.ofNat s.currentLen = UInt64.ofNat s.written.length) :
    (s.takeRead result).Inv := by
  cases result with
  | error e => exact ⟨trivial, .inr hread, trivial⟩
  | ok n => exact inv_loopHead _ (hfits n rfl) hread hcount

end

structure Fetches (s s' : ReadAhead) (result : IoResult Nat) : Prop where
  reads : s'.readsLeft (some result) = s.reads
  fits : s'.Fits result
  read : s'.read = s.read ++ s'.fetched result
  fewer : s'.reads.length < s.reads.length
  frame : s' = { s with reads := s'.reads, buffers := s'.buffers, read := s'.read }

lemma Fetches.exists_frame {s' : ReadAhead} {result : IoResult Nat} (h : Fetches s s' result) :
    ∃ reads buffers read, s' = { s with reads := reads, buffers := buffers, read := read } :=
  ⟨_, _, _, h.frame⟩

lemma readBuf_next (hnil : s.buffers s.next = []) : (s.reads = [] ∧ s.readBuf s.next = none) ∨
    ∃ s' result, s.readBuf s.next = some (s', result) ∧ Fetches s s' result := by
  unfold readBuf
  match hr : s.reads with
  | [] => exact .inl ⟨rfl, rfl⟩
  | .error e :: reads =>
    refine .inr ⟨_, _, rfl, ?_, nofun, (append_nil _).symm, ?_, rfl⟩
    · rw [hr]
      rfl
    · rw [hr]
      exact Nat.lt_succ_self _
  | .ok bytes :: reads =>
    have hbuf : Function.update s.buffers s.next (s.buffers s.next ++ bytes) s.next = bytes := by
      rw [Function.update_self, hnil]
      rfl
    refine .inr ⟨_, _, rfl, ?_, ?_, ?_, ?_, rfl⟩
    · rw [hr]
      show .ok ((Function.update s.buffers s.next _ s.next).take bytes.length) :: reads = _
      rw [hbuf, take_length]
    · intro n hn
      show (Function.update s.buffers s.next _ s.next).length = n
      rw [hbuf]
      exact Except.ok.inj hn
    · show s.read ++ bytes = s.read ++ Function.update s.buffers s.next _ s.next
      rw [hbuf]
    · rw [hr]
      exact Nat.lt_succ_self _

variable {left : Bytes} {a : WriteAnswer} {exit : CopyExit}

/-- what a write future takes is the front of what is left -/
lemma writeOnce_spec (stallTimeout : Bool) (left : Bytes) (a : WriteAnswer) :
    match writeOnce stallTimeout left a with
    | (accepted, .done) => accepted = left
    | (accepted, .pending left') => left = accepted ++ left'
    | (_, .failed _) => True := by
  cases a with
  | accept n =>
    dsimp only [writeOnce]
    by_cases h0 : n = 0
    · rw [if_pos h0]
      trivial
    · rw [if_neg h0]
      by_cases hnil : left.drop n = []
      · rw [if_pos hnil]
        exact take_of_length_le (drop_eq_nil_iff.mp hnil)
      · rw [if_neg hnil]
        exact (take_append_drop n left).symm
  | failed e => trivial
  | stalled =>
    cases stallTimeout with
    | true => trivial
    | false => rfl

/-! ## events -/

section
variable (s : ReadAhead)

def todo : Nat :=
  s.reads.length + s.writes.length + match s.phase with
    | .returned _ => 0
    | _ => 1

lemma todo_le : s.todo ≤ s.reads.length + s.writes.length + 1 := by
  unfold todo
  split
  · omega
  · omega

lemma todo_loopHead : s.loopHead.todo ≤ s.reads.length + s.writes.length + 1 := by
  refine Nat.le_trans (todo_le _) ?_
  unfold loopHead
  split
  · exact Nat.le_refl _
  · exact Nat.le_refl _

lemma todo_takeRead (result : IoResult Nat) :
    (s.takeRead result).todo ≤ s.reads.length + s.writes.length + 1 := by
  cases result with
  | ok n => exact todo_loopHead _
  | error e => exact todo_le _

end

/-- an event has an effect, but not on what the loop comes to -/
structure Moves (s s' : ReadAhead) : Prop where
  outcome : s'.outcome = s.outcome
  inv : s'.Inv
  less : s'.todo < s.todo

lemma Moves.ne {s' : ReadAhead} (h : Moves s s') : s' ≠ s := by
  rintro rfl
  exact Nat.lt_irrefl _ h.less

section
variable (hi : s.Inv)
include hi

lemma stepRead_firstRead (hphase : s.phase = .firstRead) :
    (s.reads = [] ∧ s.stepRead = s) ∨ Moves s s.stepRead := by
  obtain ⟨hbuf, hread, hcount⟩ := hi
  simp only [Buffered, Failed, ahead, Counted, hphase, false_or, append_nil] at hbuf hread hcount
  have htodo : s.todo = s.reads.length + s.writes.length + 1 := by
    simp only [todo, hphase]
  have hout : s.outcome
      = (copyLoop s.stallTimeout s.flush s.reads s.writes s.copied).after s.written := by
    simp only [outcome, hphase]
  unfold stepRead readBuf
  rw [hphase]
  dsimp only
  match hr : s.reads with
  | [] => exact .inl ⟨rfl, rfl⟩
  | .error e :: reads =>
    right
    rw [hr] at hout htodo
    refine ⟨?_, ⟨trivial, .inr ?_, trivial⟩, ?_⟩
    · rw [hout]
      rfl
    · show s.read = s.written ++ []
      rw [append_nil, hread]
    · rw [htodo]
      show reads.length + s.writes.length + 0 < _
      rw [length_cons]
      omega
  | .ok bytes :: reads =>
    right
    rw [hr] at hout htodo
    have hnew : Function.update s.buffers s.current (s.buffers s.current ++ bytes) s.current
        = bytes := by
      rw [Function.update_self, hbuf]
      rfl
    dsimp only
    refine ⟨?_, ?_, ?_⟩
    · rw [outcome_loopHead _ (congrArg List.length hnew), hout]
      dsimp only
      rw [hnew]
    · refine inv_loopHead _ (congrArg List.length hnew) ?_ hcount
      dsimp only
      rw [hnew, hread]
    · refine Nat.lt_of_le_of_lt (todo_loopHead _) ?_
      rw [htodo, length_cons]
      dsimp only
      omega

lemma stepRead_writing (hphase : s.phase = .writing left none) :
    s.stepRead = s ∨ Moves s s.stepRead := by
  obtain ⟨hbuf, hread, hcount⟩ := hi
  simp only [Buffered, Failed, ahead, Counted, hphase, false_or] at hbuf hread hcount
  have htodo : s.todo = s.reads.length + s.writes.length + 1 := by
    simp only [todo, hphase]
  have hout : s.outcome = Copied.after (writeAll s.stallTimeout left s.writes fun writes =>
      copyLoop s.stallTimeout s.flush s.reads writes (s.copied + UInt64.ofNat s.currentLen))
      s.written := by
    simp only [outcome, hphase, readsLeft]
  unfold stepRead
  rw [hphase]
  dsimp only
  rcases readBuf_next hbuf with ⟨_, hnone⟩ | ⟨s', result, hsome, hf⟩
  · rw [hnone]
    exact .inl rfl
  · rw [hsome]
    right
    dsimp only
    obtain ⟨reads, buffers, read, rfl⟩ := hf.exists_frame
    obtain ⟨hreads, hfits, hread', hfewer, -⟩ := hf
    refine ⟨?_, ⟨?_, .inr ?_, ?_⟩, ?_⟩
    · rw [hout, ← hreads]
      rfl
    · cases result with
      | ok n => exact hfits n rfl
      | error e => trivial
    · refine hread'.trans ?_
      rw [hread, append_assoc]
      cases result with
      | ok n => rfl
      | error e => exact congrArg _ (append_nil left)
    · exact hcount
    · rw [htodo]
      show reads.length + s.writes.length + 1 < _
      have hless : reads.length < s.reads.length := hfewer
      omega

lemma stepRead_awaitingRead (hphase : s.phase = .awaitingRead) :
    (s.reads = [] ∧ s.stepRead = s) ∨ Moves s s.stepRead := by
  obtain ⟨hbuf, hread, hcount⟩ := hi
  simp only [Buffered, Failed, ahead, Counted, hphase, false_or, append_nil] at hbuf hread hcount
  have htodo : s.todo = s.reads.length + s.writes.length + 1 := by
    simp only [todo, hphase]
  have hout : s.outcome = (copyLoop s.stallTimeout s.flush s.reads s.writes
      (s.copied + UInt64.ofNat s.currentLen)).after s.written := by
    simp only [outcome, hphase]
  unfold stepRead
  rw [hphase]
  dsimp only
  rcases readBuf_next hbuf with ⟨hnil, hnone⟩ | ⟨s', result, hsome, hf⟩
  · rw [hnone]
    exact .inl ⟨hnil, rfl⟩
  · rw [hsome]
    right
    dsimp only
    obtain ⟨reads, buffers, read, rfl⟩ := hf.exists_frame
    obtain ⟨hreads, hfits, hread', hfewer, -⟩ := hf
    refine ⟨?_, inv_takeRead _ result hfits ?_ ?_, ?_⟩
    · rw [outcome_takeRead _ result hfits, hout, hreads]
    · refine hread'.trans ?_
      rw [hread]
    · exact hcount
    · refine Nat.lt_of_le_of_lt (todo_takeRead _ result) ?_
      rw [htodo]
      have hless : reads.length < s.reads.length := hfewer
      dsimp only
      omega

lemma stepRead_spec : s.stepRead = s ∨ Moves s s.stepRead := by
  match hphase : s.phase with
  | .firstRead => exact (stepRead_firstRead hi hphase).imp_left And.right
  | .writing left none => exact stepRead_writing hi hphase
  | .awaitingRead => exact (stepRead_awaitingRead hi hphase).imp_left And.right
  | .writing left (some result) => exact .inl (by simp only [stepRead, hphase])
  | .flushing => exact .inl (by simp only [stepRead, hphase])
  | .returned exit => exact .inl (by simp only [stepRead, hphase])

lemma stepWrite_writing {readResult : Option (IoResult Nat)}
    (hphase : s.phase = .writing left readResult) {writes : List WriteAnswer}
    (hw : s.writes = a :: writes) : Moves s s.stepWrite := by
  obtain ⟨hbuf, hread, hcount⟩ := hi
  have hread : s.read = s.written ++ s.ahead := by
    rcases hread with hf | hread
    · simp only [Failed, hphase] at hf
    · exact hread
  simp only [Buffered, ahead, Counted, hphase] at hbuf hread hcount
  have htodo : s.todo = s.reads.length + (writes.length + 1) + 1 := by
    simp only [todo, hphase, hw, length_cons]
  have hout : s.outcome = Copied.after (writeAll s.stallTimeout left (a :: writes) fun writes =>
      copyLoop s.stallTimeout s.flush (s.readsLeft readResult) writes
        (s.copied + UInt64.ofNat s.currentLen)) s.written := by
    simp only [outcome, hphase, hw]
  rw [writeAll] at hout
  unfold stepWrite
  rw [hphase, hw]
  dsimp only
  have hspec := writeOnce_spec s.stallTimeout left a
  match ho : writeOnce s.stallTimeout left a with
  | (accepted, .failed e) =>
    rw [ho] at hout
    refine ⟨hout.symm ▸ ?_, ⟨trivial, .inl trivial, trivial⟩, ?_⟩
    · show Copied.after _ (s.written ++ accepted) = _
      rw [Copied.after, append_nil]
      rfl
    · rw [htodo]
      show s.reads.length + writes.length + 0 < _
      omega
  | (accepted, .pending left') =>
    rw [ho] at hout hspec
    have hleft : left = accepted ++ left' := hspec
    refine ⟨?_, ⟨?_, .inr ?_, ?_⟩, ?_⟩
    · rw [hout]
      dsimp only
      rw [Copied.after_after]
      rfl
    · rcases readResult with _ | _ | n
      · exact hbuf
      · trivial
      · exact hbuf
    · dsimp only
      rw [hread, hleft]
      rcases readResult with _ | _ | n
      · exact (append_assoc _ _ _).symm
      · exact (append_assoc _ _ _).symm
      · show s.written ++ (accepted ++ left' ++ _) = s.written ++ accepted ++ (left' ++ _)
        rw [append_assoc, append_assoc]
        rfl
    · show s.copied + UInt64.ofNat s.currentLen
        = UInt64.ofNat ((s.written ++ accepted).length + left'.length)
      rw [hcount, hleft, length_append, length_append, Nat.add_assoc]
    · rw [htodo]
      show s.reads.length + writes.length + 1 < _
      omega
  | (accepted, .done) =>
    rw [ho] at hout hspec
    obtain rfl : accepted = left := hspec
    dsimp only at hout
    rw [Copied.after_after] at hout
    rw [← length_append] at hcount
    cases readResult with
    | none =>
      refine ⟨hout.symm, ⟨hbuf, .inr ?_, hcount⟩, ?_⟩
      · exact hread.trans (append_nil _).symm
      · rw [htodo]
        show s.reads.length + writes.length + 1 < _
        omega
    | some result =>
      have hfits : s.Fits result := by
        rintro n rfl
        exact hbuf
      dsimp only
      refine ⟨?_, inv_takeRead _ result hfits ?_ hcount, ?_⟩
      · refine (outcome_takeRead _ result ?_).trans hout.symm
        exact hfits
      · dsimp only
        rw [hread]
        cases result with
        | ok n => exact (append_assoc _ _ _).symm
        | error e => exact (append_nil _).symm
      · refine Nat.lt_of_le_of_lt (todo_takeRead _ result) ?_
        rw [htodo]
        dsimp only
        omega

lemma stepWrite_spec : s.stepWrite = s ∨ Moves s s.stepWrite := by
  match hphase : s.phase, hw : s.writes with
  | .writing left readResult, a :: writes => exact .inr (stepWrite_writing hi hphase hw)
  | .writing left readResult, [] => exact .inl (by simp only [stepWrite, hphase, hw])
  | .firstRead, _ => exact .inl (by simp only [stepWrite, hphase])
  | .awaitingRead, _ => exact .inl (by simp only [stepWrite, hphase])
  | .flushing, _ => exact .inl (by simp only [stepWrite, hphase])
  | .returned exit, _ => exact .inl (by simp only [stepWrite, hphase])

lemma stepFlush_spec : s.stepFlush = s ∨ Moves s s.stepFlush := by
  match hphase : s.phase, hf : s.flush with
  | .flushing, some r =>
    obtain ⟨hbuf, hread, hcount⟩ := hi
    simp only [Failed, ahead, Counted, hphase, false_or] at hread hcount
    have htodo : s.todo = s.reads.length + s.writes.length + 1 := by
      simp only [todo, hphase]
    have hout : s.outcome = (flushed (some r) s.copied).after s.written := by
      simp only [outcome, hphase, hf]
    have hless : s.reads.length + s.writes.length + 0 < s.todo := by omega
    unfold stepFlush
    rw [hphase, hf]
    cases r with
    | ok u => exact .inr ⟨hout.symm, ⟨trivial, .inr hread, hcount⟩, hless⟩
    | error e => exact .inr ⟨hout.symm, ⟨trivial, .inl trivial, trivial⟩, hless⟩
  | .flushing, none => exact .inl (by simp only [stepFlush, hphase, hf])
  | .firstRead, _ => exact .inl (by simp only [stepFlush, hphase])
  | .writing left readResult, _ => exact .inl (by simp only [stepFlush, hphase])
  | .awaitingRead, _ => exact .inl (by simp only [stepFlush, hphase])
  | .returned exit, _ => exact .inl (by simp only [stepFlush, hphase])

section
variable (event : CopyEvent)

/-- **The step lemma**: an event that has an effect leaves what the loop comes to as it is. -/
lemma step_spec : s.step event = s ∨ Moves s (s.step event) := by
  cases event with
  | read => exact stepRead_spec hi
  | write => exact stepWrite_spec hi
  | flush => exact stepFlush_spec hi

lemma outcome_step : (s.step event).outcome = s.outcome := by
  rcases step_spec hi event with h | h
  · rw [h]
  · exact h.outcome

lemma inv_step : (s.step event).Inv := by
  rcases step_spec hi event with h | h
  · rw [h]
    exact hi
  · exact h.inv

end

/-! ## runs -/

lemma exists_step_ne (hexit : s.outcome.exit = some exit)
    (hphase : ∀ exit, s.phase ≠ .returned exit) : ∃ event, s.step event ≠ s := by
  unfold outcome at hexit
  rw [Copied.exit_after] at hexit
  match hp : s.phase with
  | .firstRead =>
    rcases stepRead_firstRead hi hp with ⟨hnil, -⟩ | hm
    · rw [hp, hnil] at hexit
      cases hexit
    · exact ⟨.read, hm.ne⟩
  | .awaitingRead =>
    rcases stepRead_awaitingRead hi hp with ⟨hnil, -⟩ | hm
    · rw [hp, hnil] at hexit
      cases hexit
    · exact ⟨.read, hm.ne⟩
  | .writing left readResult =>
    match hw : s.writes with
    | [] =>
      rw [hp, hw] at hexit
      cases hexit
    | a :: writes => exact ⟨.write, (stepWrite_writing hi hp hw).ne⟩
  | .flushing =>
    match hf : s.flush with
    | none =>
      rw [hp, hf] at hexit
      cases hexit
    | some r =>
      refine ⟨.flush, fun hsame => ?_⟩
      have hphase' := congrArg ReadAhead.phase hsame
      rw [hp] at hphase'
      unfold step stepFlush at hphase'
      rw [hp, hf] at hphase'
      cases r with
      | ok u => cases hphase'
      | error e => cases hphase'
  | .returned exit => exact absurd hp (hphase exit)

end

structure Fresh (s : ReadAhead) : Prop where
  phase : s.phase = .firstRead
  buffer : s.buffers s.current = []
  copied : s.copied = 0
  read : s.read = []
  written : s.written = []

lemma Fresh.inv (h : s.Fresh) : s.Inv := by
  obtain ⟨hphase, hbuf, hcopied, hread, hwritten⟩ := h
  refine ⟨?_, .inr ?_, ?_⟩
  · simp only [Buffered, hphase, hbuf]
  · simp only [ahead, hphase, hread, hwritten, append_nil]
  · simp only [Counted, hphase, hcopied, hwritten]
    rfl

lemma Fresh.outcome (h : s.Fresh) : s.outcome = copyLoop s.stallTimeout s.flush s.reads s.writes 0 := by
  obtain ⟨hphase, -, hcopied, -, hwritten⟩ := h
  simp only [ReadAhead.outcome, hphase, hcopied, hwritten, Copied.after_nil]

/-- **The run lemma**: no order of the events changes what the loop comes to. -/
lemma run_spec (hi : s.Inv) (events : List CopyEvent) :
    (run step s events).Inv ∧ (run step s events).outcome = s.outcome := by
  have hkeep : ∀ (t : ReadAhead) (e : CopyEvent), t.Inv ∧ t.outcome = s.outcome →
      (t.step e).Inv ∧ (t.step e).outcome = s.outcome := by
    rintro t e ⟨ht, hout⟩
    exact ⟨inv_step ht e, (outcome_step ht e).trans hout⟩
  exact run_keeps hkeep events ⟨hi, rfl⟩

lemma outcome_returned (hphase : s.phase = .returned exit) : s.outcome = ⟨s.written, some exit⟩ := by
  simp only [outcome, hphase, Copied.after, append_nil]

lemma returns (hi : s.Inv) (hexit : s.outcome.exit = some exit) {σ : Nat → CopyEvent}
    (hfair : Runs.Fair σ) : ∃ n, (runFor step s σ n).phase = .returned exit := by
  let Inv' : ReadAhead → Prop := fun t => t.Inv ∧ t.outcome.exit = some exit
  have hinv : ∀ t e, Inv' t → Inv' (step t e) := by
    rintro t e ⟨ht, hout⟩
    exact ⟨inv_step ht e, by rw [outcome_step ht e]; exact hout⟩
  have hless : ∀ t e, Inv' t → step t e = t ∨ (step t e).todo < t.todo := by
    rintro t e ⟨ht, -⟩
    exact (step_spec ht e).imp_right Moves.less
  have hnext : ∀ t, Inv' t → ¬ t.phase = .returned exit → ∃ e, step t e ≠ t := by
    rintro t ⟨ht, hout⟩ hphase
    refine exists_step_ne ht hout fun exit' hp => hphase ?_
    rw [outcome_returned hp] at hout
    rw [hp, Option.some.inj hout]
  exact hfair.eventually hinv hless hnext ⟨hi, hexit⟩

/-- the machine copies what the plain loop copies, in whatever order its futures complete -/
structure CopiesAs (start : ReadAhead) (plain : Copied) : Prop where
  written_before : ∀ events, (run step start events).written <+: plain.written
  /-- it returns only when it has written what the plain loop writes, and with the same exit -/
  returned : ∀ events exit, (run step start events).phase = .returned exit →
    plain = ⟨(run step start events).written, some exit⟩
  returns : ∀ exit, plain.exit = some exit → ∀ σ, Runs.Fair σ →
    ∃ n, (runFor step start σ n).phase = .returned exit
  ok_count : ∀ events n, (run step start events).phase = .returned (.copied n) →
    n = UInt64.ofNat (run step start events).read.length ∧
      (run step start events).written = (run step start events).read
  read_error : ∀ events e, (run step start events).phase = .returned (.readFailed e) →
    (run step start events).written = (run step start events).read

lemma Fresh.copiesAs (h : s.Fresh) :
    s.CopiesAs (copyLoop s.stallTimeout s.flush s.reads s.writes 0) := by
  have hrun := run_spec h.inv
  rw [h.outcome] at hrun
  have hread : ∀ events exit, (run step s events).phase = .returned exit →
      ¬ (run step s events).Failed →
      (run step s events).written = (run step s events).read := by
    intro events exit hp hf
    have hr := (hrun events).1.read_eq.resolve_left hf
    rw [hr]
    simp only [ahead, hp, append_nil]
  refine ⟨?_, ?_, ?_, ?_, ?_⟩
  · intro events
    rw [← (hrun events).2]
    exact prefix_append _ _
  · intro events exit hp
    rw [← (hrun events).2, outcome_returned hp]
  · intro exit hexit σ hfair
    rw [← h.outcome] at hexit
    exact ReadAhead.returns h.inv hexit hfair
  · intro events n hp
    have hw := hread events _ hp (by simp only [Failed, hp, not_false_eq_true])
    have hc := (hrun events).1.counted
    simp only [Counted, hp] at hc
    exact ⟨hw ▸ hc, hw⟩
  · intro events e hp
    exact hread events _ hp (by simp only [Failed, hp, not_false_eq_true])

end ReadAhead

/-- **Reading ahead.**  For all answers of the reader and the writer, `written` is that of the plain
loop in every order of the completions; so are the exit and the count. -/
theorem read_ahead_copies_alike (reads : List (IoResult Bytes)) (writes : List WriteAnswer)
    (flush : Option (IoResult Unit)) :
    (relayCopyReadAheadWithStallTimeout reads writes flush).CopiesAs
      (relayCopyWithStallTimeout reads writes flush) ∧
    (relayCopyLocalToQuic reads writes flush).CopiesAs (relayCopy reads writes flush) := by
  constructor
  · exact ReadAhead.Fresh.copiesAs ⟨rfl, rfl, rfl, rfl, rfl⟩
  · exact ReadAhead.Fresh.copiesAs ⟨rfl, rfl, rfl, rfl, rfl⟩

end Zuicity
