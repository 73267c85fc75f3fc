import Zuicity.Lib.Runs
import Zuicity.Lib.Talk

/-!
# Two functions that talk to each other over a connection

Each of two `Talk`s reads what the other has written.  The connection delivers the symbols of each
direction in order, and in pieces of any size: `Duplex.step` delivers the next `n` symbols of one
direction, of those that are written already.
-/

/-- what has arrived at each end -/
structure Duplex (σ : Type) where
  toLeft : List σ := []
  toRight : List σ := []

namespace Duplex

open List

inductive Event where
  | toLeft (n : Nat)
  | toRight (n : Nat)

variable {σ ρ ε α ρ' ε' β : Type}

def written (t : Talk σ ρ ε α) (got : List σ) : List σ := (t.poll [] got .open).out

lemma written_mono (t : Talk σ ρ ε α) {a b : List σ} (h : a <+: b) : written t a <+: written t b := by
  obtain ⟨more, rfl⟩ := h
  exact t.out_poll_append [] a more

variable (left : Talk σ ρ ε α) (right : Talk σ ρ' ε' β)

variable (s : Duplex σ)

def step : Event → Duplex σ
  | .toLeft n => { s with toLeft := (written right s.toRight).take (s.toLeft.length + n) }
  | .toRight n => { s with toRight := (written left s.toLeft).take (s.toRight.length + n) }

/-- everything that is written has arrived -/
structure Done : Prop where
  toLeft_eq : s.toLeft = written right s.toRight
  toRight_eq : s.toRight = written left s.toLeft

/-- only what is written has arrived -/
structure Sound : Prop where
  toLeft : s.toLeft <+: written right s.toRight
  toRight : s.toRight <+: written left s.toLeft

structure Le (s t : Duplex σ) : Prop where
  toLeft : s.toLeft <+: t.toLeft
  toRight : s.toRight <+: t.toRight

variable {left right}
variable {s final : Duplex σ}

lemma prefix_take {a b : List σ} (h : a <+: b) (n : Nat) : a <+: b.take (a.length + n) := by
  rw [prefix_take_iff]
  exact ⟨h, Nat.le_add_right _ _⟩

lemma Sound.le_step (h : Sound left right s) (e : Event) : Le s (step left right s e) := by
  cases e with
  | toLeft n => exact ⟨prefix_take h.toLeft n, prefix_rfl⟩
  | toRight n => exact ⟨prefix_rfl, prefix_take h.toRight n⟩

lemma Sound.step (h : Sound left right s) (e : Event) :
    Sound left right (Duplex.step left right s e) := by
  have hle := h.le_step e
  cases e with
  | toLeft n => exact ⟨ take_prefix _ _, h.toRight.trans (written_mono left hle.toLeft)⟩
  | toRight n => exact ⟨h.toLeft.trans (written_mono right hle.toRight), take_prefix _ _⟩

lemma Le.step (h : Le s final) (hfinal : Done left right final) (e : Event) :
    Le (Duplex.step left right s e) final := by
  cases e with
  | toLeft n =>
    refine ⟨( take_prefix _ _).trans ?_, h.toRight⟩
    rw [hfinal.toLeft_eq]
    exact written_mono right h.toRight
  | toRight n =>
    refine ⟨h.toLeft, ( take_prefix _ _).trans ?_⟩
    rw [hfinal.toRight_eq]
    exact written_mono left h.toLeft

lemma le_of_done (hfinal : Done left right final) (events : List Event) :
    Le (Runs.run (Duplex.step left right) {} events) final := by
  have hstep : ∀ (s : Duplex σ) (e : Event), Le s final → Le (Duplex.step left right s e) final :=
    fun s e h => h.step hfinal e
  exact Runs.run_keeps hstep events ⟨ nil_prefix, nil_prefix⟩

lemma Done.toLeft_of_prefix (h : Done left right s) {got : List σ} (hgot : got <+: s.toRight) :
    written right got <+: s.toLeft := by
  rw [h.toLeft_eq]
  exact written_mono right hgot

lemma Done.toRight_of_prefix (h : Done left right s) {got : List σ} (hgot : got <+: s.toLeft) :
    written left got <+: s.toRight := by
  rw [h.toRight_eq]
  exact written_mono left hgot

def missing (final s : Duplex σ) : Nat :=
  (final.toLeft.length - s.toLeft.length) + (final.toRight.length - s.toRight.length)

lemma missing_lt {t : Duplex σ} (hst : Le s t) (ht : Le t final) (hne : t ≠ s) :
    missing final t < missing final s := by
  have hl := hst.toLeft.length_le
  have hr := hst.toRight.length_le
  have hfl := ht.toLeft.length_le
  have hfr := ht.toRight.length_le
  unfold missing
  by_contra hge
  -- nothing more has arrived
  have hleft := hst.toLeft.eq_of_length (by omega)
  have hright := hst.toRight.eq_of_length (by omega)
  obtain ⟨tl, tr⟩ := t
  obtain ⟨sl, sr⟩ := s
  cases hleft
  cases hright
  exact hne rfl

lemma take_ne {a b : List σ} (h : a <+: b) (hne : a ≠ b) {n : Nat} (hn : 0 < n) :
    b.take (a.length + n) ≠ a := by
  intro heq
  have hlt : a.length < b.length := by
    refine Nat.lt_of_le_of_ne h.length_le fun hlen => hne (h.eq_of_length hlen)
  have hlen := congrArg List.length heq
  rw [length_take] at hlen
  omega

lemma eventually_done (hfinal : Done left right final) {schedule : Nat → Event}
    (hleft : Runs.FairTo (fun e => ∃ n > 0, e = .toLeft n) schedule)
    (hright : Runs.FairTo (fun e => ∃ n > 0, e = .toRight n) schedule) :
    ∃ n, Done left right (Runs.runFor (Duplex.step left right) {} schedule n) := by
  let Inv : Duplex σ → Prop := fun s => Sound left right s ∧ Le s final
  have hinv : ∀ s e, Inv s → Inv (Duplex.step left right s e) :=
    fun s e h => ⟨h.1.step e, h.2.step hfinal e⟩
  have hμ : ∀ s e, Inv s → Duplex.step left right s e = s ∨
      missing final (Duplex.step left right s e) < missing final s := by
    intro s e h
    by_cases hsame : Duplex.step left right s e = s
    · exact .inl hsame
    · exact .inr (missing_lt (h.1.le_step e) (h.2.step hfinal e) hsame)
  refine Runs.FairTo.eventually hinv hμ (fun s h hd => ?_)
    ⟨⟨ nil_prefix, nil_prefix⟩, nil_prefix, nil_prefix⟩
  by_cases hl : s.toLeft = written right s.toRight
  · have hr : s.toRight ≠ written left s.toLeft := fun hr => hd ⟨hl, hr⟩
    refine ⟨_, hright, ?_⟩
    rintro e ⟨n, hn, rfl⟩ hsame
    exact take_ne h.1.toRight hr hn (congrArg Duplex.toRight hsame)
  · refine ⟨_, hleft, ?_⟩
    rintro e ⟨n, hn, rfl⟩ hsame
    exact take_ne h.1.toLeft hl hn (congrArg Duplex.toLeft hsame)

variable (left right final)

/-- whatever the pieces are, the talk ends in this state -/
structure Settles : Prop where
  le : ∀ events, Le (Runs.run (Duplex.step left right) {} events) final
  eq_of_done : ∀ events, Done left right (Runs.run (Duplex.step left right) {} events) →
    Runs.run (Duplex.step left right) {} events = final
  eventually : ∀ schedule, Runs.FairTo (fun e => ∃ n > 0, e = .toLeft n) schedule →
    Runs.FairTo (fun e => ∃ n > 0, e = .toRight n) schedule →
    ∃ n, Runs.runFor (Duplex.step left right) {} schedule n = final

variable {left right final}

lemma settles (hfinal : Done left right final) (hleast : ∀ s, Done left right s → Le final s) :
    Settles left right final := by
  have heq : ∀ events, Done left right (Runs.run (Duplex.step left right) {} events) →
      Runs.run (Duplex.step left right) {} events = final := by
    intro events hdone
    have hle := le_of_done hfinal events
    have hge := hleast _ hdone
    generalize Runs.run (Duplex.step left right) {} events = s at hle hge ⊢
    have hl := hle.toLeft.eq_of_length (Nat.le_antisymm hle.toLeft.length_le hge.toLeft.length_le)
    have hr := hle.toRight.eq_of_length (Nat.le_antisymm hle.toRight.length_le hge.toRight.length_le)
    obtain ⟨sl, sr⟩ := s
    obtain ⟨fl, fr⟩ := final
    cases hl
    cases hr
    rfl
  refine ⟨le_of_done hfinal, heq, fun schedule hleft hright => ?_⟩
  obtain ⟨n, hn⟩ := eventually_done hfinal hleft hright
  exact ⟨n, heq _ hn⟩

end Duplex
