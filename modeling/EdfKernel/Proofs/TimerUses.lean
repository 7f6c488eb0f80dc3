import EdfKernel.Timer
import Mathlib.Algebra.Group.Nat.Defs
import Mathlib.Data.List.Perm.Basic
import Mathlib.Data.List.Range
import Mathlib.Tactic.Tauto

/-!
What becomes of the armings of a timer that is armed, disarmed and polled again and again, from
wherever. In the slot is the last arming, if since then the timer was only polled, and each time
before its instant; the first poll that is not too early runs it. So an arming is run, or dropped
for another one or for nothing, or still there, and only one of these.

Armings that are alike are told apart by their numbers. A timer does not look into its wake-ups,
so a wake-up may carry the number of its arming.
-/

namespace EdfKernel

namespace Arming

variable {κ ι : Type}

def map (f : κ → ι) (arming : Arming κ) : Arming ι := ⟨arming.instant, f arming.wake⟩

def number (arming : Arming (Nat × κ)) : Nat := arming.wake.1

def withNumber (arming : Arming κ) (number : Nat) : Arming (Nat × κ) :=
  arming.map fun wake => (number, wake)

end Arming

namespace Timer

inductive Use (κ : Type) where
  | arm (instant : Ticks) (wake : κ)
  | disarm
  | poll (now : Ticks)

namespace Use

variable {κ ι : Type}

def arming? : Use κ → Option (Arming κ)
  | arm instant wake => some ⟨instant, wake⟩
  | _ => none

def IsEarly (instant : Ticks) (use : Use κ) : Prop := ∃ now, use = poll now ∧ now < instant

def map (f : κ → ι) : Use κ → Use ι
  | arm instant wake => arm instant (f wake)
  | disarm => disarm
  | poll now => poll now

theorem isEarly_map (f : κ → ι) (instant : Ticks) (use : Use κ) :
    (use.map f).IsEarly instant ↔ use.IsEarly instant := by
  cases use <;> simp [map, IsEarly]

end Use

variable {κ ι : Type}

def map (f : κ → ι) (timer : Timer κ) : Timer ι :=
  ⟨timer.slot.map (·.map f), timer.fired, timer.armings⟩

def use (timer : Timer κ) : Use κ → Timer κ
  | .arm instant wake => timer.armAt instant wake
  | .disarm => timer.disarm
  | .poll now => (timer.poll now).2

def runs? (timer : Timer κ) : Use κ → Option (Arming κ)
  | .poll now => if (timer.poll now).1.isSome then timer.slot else none
  | _ => none

def drops? (timer : Timer κ) : Use κ → Option (Arming κ)
  | .arm _ _ | .disarm => timer.slot
  | .poll _ => none

def after : List (Use κ) → Timer κ
  | [] => unarmed
  | use :: earlier => (after earlier).use use

def made (uses : List (Use κ)) : List (Arming κ) := uses.filterMap Use.arming?

/-- The armings whose wake-ups were handed over, the latest in front. -/
def ran : List (Use κ) → List (Arming κ)
  | [] => []
  | use :: earlier => ((after earlier).runs? use).toList ++ ran earlier

/-- The armings that were replaced or disarmed, the latest in front. -/
def dropped : List (Use κ) → List (Arming κ)
  | [] => []
  | use :: earlier => ((after earlier).drops? use).toList ++ dropped earlier

/-- The uses with the armings numbered in the order in which they are made. -/
def numbered : List (Use κ) → List (Use (Nat × κ))
  | [] => []
  | use :: earlier => use.map (fun wake => ((made earlier).length, wake)) :: numbered earlier

/-- An arming stands: since it was made, as the one with this number, the timer was only polled,
and each time before its instant. -/
inductive Stands (number : Nat) (arming : Arming κ) : List (Use κ) → Prop where
  | made {earlier : List (Use κ)} (count : (made earlier).length = number) :
      Stands number arming (.arm arming.instant arming.wake :: earlier)
  | early {use : Use κ} {earlier : List (Use κ)} (early : use.IsEarly arming.instant) :
      Stands number arming earlier → Stands number arming (use :: earlier)

theorem poll_decides (timer : Timer κ) (now : Ticks) :
    (∃ arming, timer.slot = some arming ∧ arming.instant ≤ now ∧
      timer.runs? (.poll now) = some arming ∧
      timer.poll now =
        (some arming.wake, { timer with slot := none, fired := timer.fired + 1 })) ∨
    ((∀ arming, timer.slot = some arming → now < arming.instant) ∧
      timer.runs? (.poll now) = none ∧ timer.poll now = (none, timer)) := by
  rcases timer.poll_due_or_early now with ⟨arming, armed, due, polled⟩ | ⟨early, polled⟩
  · exact .inl ⟨arming, armed, due, by simp [runs?, polled, armed], polled⟩
  · exact .inr ⟨early, by simp [runs?, polled], polled⟩

theorem slot_use_iff (timer : Timer κ) (use : Use κ) (arming : Arming κ) :
    (timer.use use).slot = some arming ↔
      use.arming? = some arming ∨ use.IsEarly arming.instant ∧ timer.slot = some arming := by
  cases use with
  | arm instant wake => simp [Timer.use, armAt, Use.arming?, Use.IsEarly]
  | disarm => simp [Timer.use, disarm, Use.arming?, Use.IsEarly]
  | poll now =>
      rcases timer.poll_decides now with ⟨other, armed, due, _, polled⟩ | ⟨early, _, polled⟩
      · simp only [Timer.use, polled, Use.arming?, reduceCtorEq, false_or, false_iff]
        rintro ⟨⟨_, ⟨⟩, before⟩, there⟩
        cases armed.symm.trans there
        exact absurd before (UInt64.not_lt.mpr due)
      · simp only [Timer.use, polled, Use.arming?, reduceCtorEq, false_or]
        exact ⟨fun there => ⟨⟨now, rfl, early arming there⟩, there⟩, And.right⟩

theorem use_fates (timer : Timer κ) (use : Use κ) :
    (timer.use use).slot.toList ++ ((timer.runs? use).toList ++ (timer.drops? use).toList) =
      use.arming?.toList ++ timer.slot.toList := by
  cases use with
  | arm | disarm => rfl
  | poll now =>
      rcases timer.poll_decides now with ⟨arming, armed, _, runs, polled⟩ | ⟨_, runs, polled⟩
      · simp [Timer.use, polled, runs, armed, drops?, Use.arming?]
      · simp [Timer.use, polled, runs, drops?, Use.arming?]

theorem made_cons (use : Use κ) (earlier : List (Use κ)) :
    made (use :: earlier) = use.arming?.toList ++ made earlier := by
  unfold made
  cases made : use.arming? <;> simp [made]

theorem fates (uses : List (Use κ)) :
    ((after uses).slot.toList ++ (ran uses ++ dropped uses)).Perm (made uses) := by
  induction uses with
  | nil => exact .refl _
  | cons use earlier ih =>
      have now := use_fates (after earlier) use
      rw [made_cons]
      refine .trans ?_ (.append_left _ ih)
      rw [← List.append_assoc use.arming?.toList, ← now, after, ran, dropped]
      simp only [List.append_assoc]
      -- What this use drops changes places with what was run before.
      refine .append_left _ (.append_left _ ?_)
      rw [← List.append_assoc, ← List.append_assoc]
      exact .append_right _ List.perm_append_comm

/-! The numbers of armings. -/

theorem map_map_snd (use : Use κ) (number : Nat) :
    (use.map fun wake => (number, wake)).map Prod.snd = use := by
  cases use <;> rfl

theorem use_map (f : κ → ι) (timer : Timer κ) (use : Use κ) :
    (timer.map f).use (use.map f) = (timer.use use).map f := by
  cases use with
  | arm | disarm => rfl
  | poll now =>
      obtain ⟨slot, fired, armings⟩ := timer
      cases slot with
      | none => rfl
      | some arming =>
          simp only [Timer.use, Use.map, map, poll, Option.map_some, Arming.map]
          split <;> rfl

theorem after_numbered (uses : List (Use κ)) :
    (after (numbered uses)).map Prod.snd = after uses := by
  induction uses with
  | nil => rfl
  | cons use earlier ih =>
      rw [numbered, after, ← use_map, ih, map_map_snd, after]

theorem made_numbered (uses : List (Use κ)) :
    (made (numbered uses)).map Arming.number = (List.range (made uses).length).reverse := by
  induction uses with
  | nil => rfl
  | cons use earlier ih =>
      rw [numbered, made_cons, List.map_append, ih, made_cons]
      cases use with
      | arm => simp [Use.map, Use.arming?, Arming.number, List.range_succ]
      | disarm | poll => rfl

theorem arming?_number_iff (use : Use κ) (next number : Nat) (arming : Arming κ) :
    (use.map fun wake => (next, wake)).arming? = some (arming.withNumber number) ↔
      use.arming? = some arming ∧ next = number := by
  obtain ⟨instant, wake⟩ := arming
  cases use with
  | arm =>
      simp only [Use.map, Use.arming?, Arming.withNumber, Arming.map, Option.some.injEq,
        Arming.mk.injEq, Prod.mk.injEq]
      tauto
  | disarm | poll => simp [Use.map, Use.arming?]

theorem stands_cons_iff (use : Use κ) (earlier : List (Use κ)) (number : Nat)
    (arming : Arming κ) :
    Stands number arming (use :: earlier) ↔
      use.arming? = some arming ∧ (made earlier).length = number ∨
        use.IsEarly arming.instant ∧ Stands number arming earlier := by
  constructor
  · intro stands
    cases stands with
    | made count => exact .inl ⟨rfl, count⟩
    | early early stands => exact .inr ⟨early, stands⟩
  · rintro (⟨arms, count⟩ | ⟨early, stands⟩)
    · cases use with
      | arm instant wake =>
          cases arms
          exact .made count
      | disarm | poll => cases arms
    · exact .early early stands

theorem slot_iff (uses : List (Use κ)) (number : Nat) (arming : Arming κ) :
    (after (numbered uses)).slot = some (arming.withNumber number) ↔
      Stands number arming uses := by
  induction uses with
  | nil =>
      constructor
      · intro armed
        cases armed
      · intro stands
        cases stands
  | cons use earlier ih =>
      rw [numbered, after, slot_use_iff, ih, arming?_number_iff, Use.isEarly_map, stands_cons_iff]
      rfl

theorem runs?_iff (uses : List (Use κ)) (now : Ticks) (number : Nat) (arming : Arming κ) :
    (after (numbered uses)).runs? (.poll now) = some (arming.withNumber number) ↔
      Stands number arming uses ∧ arming.instant ≤ now := by
  rw [← slot_iff]
  rcases (after (numbered uses)).poll_decides now with
    ⟨other, armed, due, runs, _⟩ | ⟨early, runs, _⟩
  · rw [runs, armed]
    refine ⟨fun same => ⟨same, ?_⟩, And.left⟩
    cases same
    exact due
  · rw [runs]
    constructor
    · intro run
      cases run
    · rintro ⟨armed, due⟩
      exact absurd (early _ armed) (UInt64.not_lt.mpr due)

theorem numbers (uses : List (Use κ)) :
    (((after (numbered uses)).slot.toList ++
        (ran (numbered uses) ++ dropped (numbered uses))).map Arming.number).Perm
      (List.range (made uses).length) := by
  refine ((fates (numbered uses)).map Arming.number).trans ?_
  rw [made_numbered]
  exact List.reverse_perm _

theorem number_not_mem_ran {uses : List (Use κ)} {number : Nat} {arming : Arming κ}
    (stands : Stands number arming uses) :
    number ∉ (ran (numbered uses)).map Arming.number := by
  have distinct := (numbers uses).nodup_iff.mpr List.nodup_range
  rw [(slot_iff uses number arming).mpr stands, Option.toList_some, List.singleton_append,
    List.map_cons, List.map_append] at distinct
  obtain ⟨fresh, _⟩ := List.nodup_cons.mp distinct
  exact fun again => fresh (List.mem_append_left _ again)

/-! The two counters, as words. -/

theorem armings_after (uses : List (Use κ)) :
    (after uses).armings = UInt64.ofNat (made uses).length := by
  induction uses with
  | nil => rfl
  | cons use earlier ih =>
      rw [made_cons, after]
      cases use with
      | arm => simp [Timer.use, armAt, ih, Use.arming?, UInt64.ofNat_add]
      | disarm => exact ih
      | poll now =>
          rcases (after earlier).poll_decides now with ⟨_, _, _, _, polled⟩ | ⟨_, _, polled⟩ <;>
            · rw [Timer.use, polled]
              exact ih

theorem fired_after (uses : List (Use κ)) :
    (after uses).fired = UInt64.ofNat (ran uses).length := by
  induction uses with
  | nil => rfl
  | cons use earlier ih =>
      rw [ran, after]
      cases use with
      | arm | disarm => exact ih
      | poll now =>
          rcases (after earlier).poll_decides now with ⟨_, _, _, runs, polled⟩ | ⟨_, runs, polled⟩
          · simp [Timer.use, polled, runs, ih, UInt64.ofNat_add, UInt64.add_comm]
          · rw [Timer.use, polled, runs]
            exact ih

theorem counted {uses : List (Use κ)} (few : (made uses).length < 2 ^ 64) :
    (after uses).armings.toNat = (made uses).length ∧
      (after uses).fired.toNat = (ran uses).length ∧
      (after uses).armings.toNat =
        (after uses).fired.toNat + (if (after uses).armedAt.isSome then 1 else 0) +
          (dropped uses).length := by
  have lengths := (fates uses).length_eq
  rw [List.length_append, List.length_append] at lengths
  have armings : (after uses).armings.toNat = (made uses).length := by
    rw [armings_after, UInt64.toNat_ofNat_of_lt' few]
  have fewer : (ran uses).length < 2 ^ 64 := by omega
  have fired : (after uses).fired.toNat = (ran uses).length := by
    rw [fired_after, UInt64.toNat_ofNat_of_lt' fewer]
  have held : (after uses).slot.toList.length =
      if (after uses).armedAt.isSome then 1 else 0 := by
    rw [armedAt]
    cases (after uses).slot <;> rfl
  exact ⟨armings, fired, by omega⟩

end Timer

end EdfKernel
