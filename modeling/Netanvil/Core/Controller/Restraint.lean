/-
# What one more constraint does to the rate

Of what the constraints say in a tick only the lowest rate matters: it is composed, and if its
constraint is catastrophic the known-good floor does not hold (`bypasses_iff`). So an opinion
can lower the composed rate and raise the rate all the same: by taking over from a catastrophic
constraint, which puts the floor back (`constraints_restrain`).
-/
import Netanvil.Core.Controller.ActiveTick

namespace Netanvil.Core

open Netanvil.Types Theory Theory.Trace ConstraintEval List Option CompositionResult

/-! ## Opinions -/

/-- A rate that is wanted, and the class of the constraint that wants it. -/
abbrev Opinion := ℚ × ConstraintClass

section

variable {C : Type} (k : Constraint C) (ctx : EvalContext)

def opinionOf (c : C) : Option Opinion :=
  match k.evaluate c ctx with
  | (some ⟨.hold rate, _⟩, c) => some (rate, k.class_ c)
  | (some ⟨.desireRate rate, _⟩, c) => some (rate, k.class_ c)
  | (some ⟨.noObjection, _⟩, _) => none
  | (none, _) => none

def opinions (cs : List C) : List Opinion := cs.filterMap (opinionOf k ctx)

/-- The lowest rate, of the first that wants it. -/
def lowest : List Opinion → Option Opinion
  | [] => none
  | o :: rest =>
    match lowest rest with
    | none => some o
    | some least => if least.1 < o.1 then some least else some o

def ConstraintEval.opinion (e : ConstraintEval) : Opinion := (e.desiredRate, e.class_)

theorem lowest_map_opinion (evals : List ConstraintEval) :
    lowest (evals.map opinion) = (minBy evals).map opinion := by
  induction evals with
  | nil => rfl
  | cons e rest ih =>
    rw [map_cons, lowest, ih, minBy]
    cases minBy rest with
    | none => rfl
    | some least =>
      by_cases lower : least.desiredRate < e.desiredRate <;>
        simp [opinion, lower]

variable {k ctx}

/-- The evaluations are the opinions, each with the index of a constraint of its class. -/
theorem evaluateAll_opinions {i : Nat} {cs cs' : List C} {evals : List ConstraintEval}
    {abstainers : Nat} (asked : evaluateAll k ctx i cs = (cs', evals, abstainers)) :
    evals.map opinion = opinions k ctx cs ∧
      ∀ e ∈ evals, i ≤ e.constraintIndex ∧
        ∃ c, cs'[e.constraintIndex - i]? = some c ∧ k.class_ c = e.class_ := by
  induction cs generalizing i cs' evals abstainers with
  | nil =>
    cases asked
    exact ⟨rfl, by simp⟩
  | cons c rest ih =>
    obtain ⟨same, indexed⟩ := ih (i := i + 1) rfl
    -- the others are one further on in the longer list
    have later : ∀ (c' : C), ∀ e ∈ (evaluateAll k ctx (i + 1) rest).2.1,
        i ≤ e.constraintIndex ∧ ∃ d,
          (c' :: (evaluateAll k ctx (i + 1) rest).1)[e.constraintIndex - i]? = some d ∧
            k.class_ d = e.class_ := by
      intro c' e mem
      obtain ⟨beyond, d, here, same⟩ := indexed e mem
      refine ⟨by omega, d, ?_, same⟩
      rw [show e.constraintIndex - i = (e.constraintIndex - (i + 1)) + 1 by omega]
      exact here
    have first : ∀ {d : C} {rate severity : ℚ}, ∀ e ∈ (⟨i, rate, severity, k.class_ d⟩ ::
        (evaluateAll k ctx (i + 1) rest).2.1 : List ConstraintEval),
        i ≤ e.constraintIndex ∧ ∃ d',
          (d :: (evaluateAll k ctx (i + 1) rest).1)[e.constraintIndex - i]? = some d' ∧
            k.class_ d' = e.class_ := by
      intro d rate severity e mem
      rcases mem_cons.mp mem with rfl | mem
      · exact ⟨le_rfl, d, by simp, rfl⟩
      · exact later d e mem
    rw [opinions, filterMap_cons, opinionOf]
    cases here : k.evaluate c ctx with
    | mk output c' =>
      simp only [evaluateAll, here] at asked
      cases output with
      | none =>
        cases asked
        exact ⟨same, later c'⟩
      | some said =>
        obtain ⟨intent, severity⟩ := said
        cases intent with
        | noObjection =>
          cases asked
          exact ⟨same, later c'⟩
        | hold rate | desireRate rate =>
          cases asked
          exact ⟨congrArg ((rate, k.class_ c') :: ·) same, first⟩

variable {os : List Opinion}

theorem lowest_isSome (some : os ≠ []) : (lowest os).isSome := by
  cases os with
  | nil => exact absurd rfl some
  | cons o rest =>
    rw [lowest]
    split
    · rfl
    · split <;> rfl

theorem eq_nil_of_lowest (none : lowest os = none) : os = [] := by
  by_contra nonempty
  have found := lowest_isSome nonempty
  rw [none] at found
  cases found

/-- The lowest opinion is one of them, and no other is lower. -/
theorem lowest_spec {o : Opinion} (found : lowest os = some o) : o ∈ os ∧ ∀ p ∈ os, o.1 ≤ p.1 := by
  induction os generalizing o with
  | nil => cases found
  | cons p rest ih =>
    rw [lowest] at found
    cases under : lowest rest with
    | none =>
      have empty : rest = [] := by
        by_contra some
        have found := lowest_isSome some
        rw [under] at found
        cases found
      rw [under] at found
      cases found
      simp [empty]
    | some least =>
      obtain ⟨mem, least_le⟩ := ih under
      rw [under] at found
      dsimp only at found
      split at found
      · rename_i lower
        cases found
        exact ⟨mem_cons_of_mem _ mem, forall_mem_cons.mpr ⟨lower.le, least_le⟩⟩
      · rename_i higher
        cases found
        refine ⟨mem_cons_self, forall_mem_cons.mpr ⟨le_rfl, fun q here => ?_⟩⟩
        exact (not_lt.mp higher).trans (least_le q here)

end

namespace Arbiter

variable {C : Type} {k : Constraint C} {a a' b' : Arbiter C Unit} {now : Nat}
  {summary : MetricsSummary} {decision decision' : RateDecision} {before after : List C}

/-! ## The lowest opinion decides -/

/-- What the constraints are told in a tick. -/
def evalContext (a : Arbiter C Unit) (summary : MetricsSummary) : EvalContext :=
  ⟨summary, a.currentRps, a.ticksSinceIncrease, a.minRps, a.maxRps⟩

/-- What the constraints of the arbiter say in a tick. -/
def opinionsAt (k : Constraint C) (a : Arbiter C Unit) (summary : MetricsSummary) :
    List Opinion :=
  opinions k (a.evalContext summary) a.constraints

/-- The rate if nobody has an opinion. -/
def increaseRate (a : Arbiter C Unit) : ℚ := a.increase.compute a.currentRps a.cooldown

/-- What the constraints' answers are to the lowest opinion. -/
theorem lowest_opinionsAt (k : Constraint C) (a : Arbiter C Unit) (summary : MetricsSummary) :
    lowest (a.opinionsAt k summary) =
      (minBy (a.compose ⟨k, minSelector⟩ summary).evals).map opinion := by
  rw [← lowest_map_opinion, opinionsAt, ← (evaluateAll_opinions rfl).1]
  rfl

theorem composed_of_none (none : lowest (a.opinionsAt k summary) = none) :
    a.composedRate ⟨k, minSelector⟩ summary = a.increaseRate ∧
      ¬ a.Bypasses ⟨k, minSelector⟩ summary := by
  rw [lowest_opinionsAt, map_eq_none_iff] at none
  have result : (a.compose ⟨k, minSelector⟩ summary).result = ⟨a.increaseRate, .none⟩ :=
    minSelector_of_none () 0 none
  refine ⟨congrArg rate result, ?_⟩
  rintro ⟨c, bound, -⟩
  rw [result] at bound
  cases bound

theorem composed_of_some {rate : ℚ} {class_ : ConstraintClass}
    (found : lowest (a.opinionsAt k summary) = some (rate, class_)) :
    a.composedRate ⟨k, minSelector⟩ summary = rate ∧
      (a.Bypasses ⟨k, minSelector⟩ summary ↔ class_ = .catastrophic) := by
  rw [lowest_opinionsAt, map_eq_some_iff] at found
  obtain ⟨e, least, same⟩ := found
  cases same
  have result : (a.compose ⟨k, minSelector⟩ summary).result =
      ⟨e.desiredRate, some e.constraintIndex⟩ :=
    minSelector_of_some () 0 least
  refine ⟨congrArg rate result, ?_⟩
  obtain ⟨-, c, here, sameClass⟩ := (evaluateAll_opinions rfl).2 e (mem_of_minBy least)
  have bound : bound (a.compose ⟨k, minSelector⟩ summary).constraints
      (a.compose ⟨k, minSelector⟩ summary).result.binding = some (some c) := by
    rw [result]
    exact congrArg (Option.map some) here
  rw [Bypasses, bound, ← sameClass]
  simp

theorem bypasses_iff : a.Bypasses ⟨k, minSelector⟩ summary ↔
    ∃ least, lowest (a.opinionsAt k summary) = some (least, .catastrophic) := by
  cases found : lowest (a.opinionsAt k summary) with
  | none => simp [(composed_of_none found).2]
  | some o => simp [(composed_of_some found).2, Prod.ext_iff]

/-! ## One more opinion -/

/-- The arbiter with one more constraint. -/
def withConstraint (a : Arbiter C Unit) (before : List C) (c : C) (after : List C) :
    Arbiter C Unit :=
  { a with constraints := before ++ c :: after }

theorem opinionsAt_withConstraint {c : C} {o : Opinion} (without : a.constraints = before ++ after)
    (wants : opinionOf k (a.evalContext summary) c = some o) :
    ∃ first last, a.opinionsAt k summary = first ++ last ∧
      (a.withConstraint before c after).opinionsAt k summary = first ++ o :: last := by
  refine ⟨opinions k (a.evalContext summary) before, opinions k (a.evalContext summary) after,
    ?_, ?_⟩
  · rw [opinionsAt, without, opinions, filterMap_append]
    rfl
  · have context : (a.withConstraint before c after).evalContext summary =
        a.evalContext summary := rfl
    rw [opinionsAt, context, opinions, withConstraint, filterMap_append, filterMap_cons, wants]
    rfl

theorem lowest_insert (first last : List Opinion) (o : Opinion) :
    ∃ p, lowest (first ++ o :: last) = some p ∧ p.1 ≤ o.1 ∧
      ∀ q, lowest (first ++ last) = some q → p.1 ≤ q.1 := by
  have nonempty : first ++ o :: last ≠ [] := by simp
  obtain ⟨p, found⟩ := isSome_iff_exists.mp (lowest_isSome nonempty)
  obtain ⟨-, least⟩ := lowest_spec found
  refine ⟨p, found, least o (by simp), fun q found' => ?_⟩
  obtain ⟨mem, -⟩ := lowest_spec found'
  refine least q ?_
  rcases mem_append.mp mem with here | here
  · exact mem_append_left _ here
  · exact mem_append_right _ (mem_cons_of_mem _ here)

/-- When one more opinion does not raise the rate. With nobody else's, what the limits leave
of it is no more than what the tick makes of the increase; and if the lowest of the others
is catastrophic, so is the lowest with it, or the floor is not above what the limits leave. -/
structure Restrains (k : Constraint C) (a : Arbiter C Unit) (now : Nat)
    (summary : MetricsSummary) (rate : ℚ) (more : List Opinion) : Prop where
  alone : lowest (a.opinionsAt k summary) = none →
    min a.maxRps (a.limited now rate) ≤
      max a.minRps (max (a.limited now a.increaseRate) (a.floorAt now))
  class_ : ∀ others, lowest (a.opinionsAt k summary) = some (others, .catastrophic) →
    (∃ least, lowest more = some (least, .catastrophic)) ∨
      min a.maxRps (a.floorAt now) ≤ max a.minRps (a.limited now others)

theorem floor_le_rate {parts : ArbiterParts C Unit}
    (taken : a.activeTick parts now summary = some (a', decision))
    (floor : ¬ a.Bypasses parts summary) : min a.maxRps (a.floorAt now) ≤ decision.targetRps :=
  (le_rate_iff_of_le taken (min_le_left _ _)).mpr (.inr (.inr ⟨floor, min_le_right _ _⟩))

section

variable (taken : a.activeTick ⟨k, minSelector⟩ now summary = some (a', decision))
include taken

theorem held_by_catastrophic {wanted : ℚ} (mem : (wanted, .catastrophic) ∈ a.opinionsAt k summary) :
    decision.targetRps ≤ max (max a.minRps wanted) a.maxDown ↔
      (∃ least, lowest (a.opinionsAt k summary) = some (least, .catastrophic)) ∨
        min a.maxRps (a.floorAt now) ≤ max (max a.minRps wanted) a.maxDown := by
  have nonempty : a.opinionsAt k summary ≠ [] := ne_nil_of_mem mem
  obtain ⟨least, found⟩ := isSome_iff_exists.mp (lowest_isSome nonempty)
  have composed : a.composedRate ⟨k, minSelector⟩ summary ≤ wanted := by
    rw [(composed_of_some found).1]
    exact (lowest_spec found).2 _ mem
  have limits : min a.maxRps (a.limited now (a.composedRate ⟨k, minSelector⟩ summary)) ≤
      max (max a.minRps wanted) a.maxDown := by
    refine (min_le_right _ _).trans (limited_le_iff.mpr (.inr ⟨le_max_right _ _, .inr ?_⟩))
    exact composed.trans ((le_max_right _ _).trans (le_max_left _ _))
  have lower : a.minRps ≤ max (max a.minRps wanted) a.maxDown :=
    (le_max_left _ _).trans (le_max_left _ _)
  rw [rate_le_iff taken, bypasses_iff]
  exact ⟨fun held => held.2.2, fun held => ⟨lower, limits, held⟩⟩

theorem restrains_iff {c : C}
    {first last : List Opinion} {o : Opinion}
    (taken' : (a.withConstraint before c after).activeTick ⟨k, minSelector⟩ now summary =
      some (b', decision'))
    (others : a.opinionsAt k summary = first ++ last)
    (more : (a.withConstraint before c after).opinionsAt k summary = first ++ o :: last) :
    decision'.targetRps ≤ decision.targetRps ↔
      a.Restrains k now summary o.1 (first ++ o :: last) := by
  have lower : a.minRps ≤ decision.targetRps := (le_rate_iff taken).mpr (.inl le_rfl)
  have bypasses' : (a.withConstraint before c after).Bypasses ⟨k, minSelector⟩ summary ↔
      ∃ least, lowest (first ++ o :: last) = some (least, .catastrophic) := by
    rw [bypasses_iff, more]
  -- the two ticks differ in the composed rate and in whether the floor holds
  have compare : decision'.targetRps ≤ decision.targetRps ↔ a.minRps ≤ decision.targetRps ∧
      min a.maxRps (a.limited now
        ((a.withConstraint before c after).composedRate ⟨k, minSelector⟩ summary)) ≤
          decision.targetRps ∧
      ((a.withConstraint before c after).Bypasses ⟨k, minSelector⟩ summary ∨
        min a.maxRps (a.floorAt now) ≤ decision.targetRps) :=
    rate_le_iff taken'
  obtain ⟨p, found', below, least⟩ := lowest_insert first last o
  have composed' : (a.withConstraint before c after).composedRate ⟨k, minSelector⟩ summary = p.1 :=
    (composed_of_some (by rw [more, found'])).1
  rw [composed', bypasses', and_iff_right lower] at compare
  rw [compare]
  cases found : lowest (a.opinionsAt k summary) with
  | none =>
    obtain ⟨composed, floor⟩ := composed_of_none found
    have empty : first ++ last = [] := others.symm.trans (eq_nil_of_lowest found)
    obtain ⟨rfl, rfl⟩ := append_eq_nil_iff.mp empty
    obtain rfl : o = p := some.inj found'
    have alone := le_rate_iff_of_le taken (min_le_left a.maxRps (a.limited now o.1))
    rw [composed, and_iff_right floor, ← le_max_iff, ← le_max_iff] at alone
    rw [and_iff_left (.inr (floor_le_rate taken floor)), alone]
    exact ⟨fun held => ⟨fun _ => held, by simp [found]⟩, fun restrains => restrains.alone found⟩
  | some q =>
    obtain ⟨wanted, class_⟩ := q
    obtain ⟨composed, floor⟩ := composed_of_some found
    have reduced : min a.maxRps (a.limited now p.1) ≤ decision.targetRps := by
      refine (le_rate_iff_of_le taken (min_le_left _ _)).mpr (.inr (.inl ?_))
      rw [composed]
      exact (min_le_right _ _).trans (min_le_min_right _
        (max_le_max_left _ (min_le_min_left _ (least _ (others ▸ found)))))
    rw [and_iff_right reduced]
    cases class_ with
    | operatingPoint =>
      exact ⟨fun _ => ⟨by simp [found], by simp [found]⟩,
        fun _ => .inr (floor_le_rate taken (by simp [floor]))⟩
    | catastrophic =>
      have held := le_rate_iff_of_le taken (min_le_left a.maxRps (a.floorAt now))
      have bypassed := floor.mpr rfl
      simp only [composed, bypassed, not_true_eq_false, false_and, or_false, ← le_max_iff] at held
      rw [held]
      refine ⟨fun held => ⟨by simp [found], fun others' same => ?_⟩,
        fun restrains => restrains.class_ wanted found⟩
      rw [found] at same
      obtain rfl : wanted = others' := congrArg Prod.fst (some.inj same)
      exact held

end

/-- **One more opinion does not raise the rate exactly if it `Restrains`. The rate is held to
what a catastrophic constraint wants, as far as the limits allow, exactly if the lowest
opinion is catastrophic or the known-good floor is held to it.** -/
theorem constraints_restrain {before after : List C} {c : C} {rate : ℚ} {class_ : ConstraintClass}
    (active : a.phase = .active) (without : a.constraints = before ++ after)
    (wants : opinionOf k (a.evalContext summary) c = some (rate, class_))
    (taken : a.update ⟨k, minSelector⟩ now summary = some (a', decision))
    {b' : Arbiter C Unit} {decision' : RateDecision}
    (taken' : (a.withConstraint before c after).update ⟨k, minSelector⟩ now summary =
      some (b', decision')) :
    (decision'.targetRps ≤ decision.targetRps ↔
      a.Restrains k now summary rate ((a.withConstraint before c after).opinionsAt k summary)) ∧
    ∀ wanted, (wanted, .catastrophic) ∈ a.opinionsAt k summary →
      (decision.targetRps ≤ max (max a.minRps wanted) a.maxDown ↔
        (∃ least, lowest (a.opinionsAt k summary) = some (least, .catastrophic)) ∨
          min a.maxRps (a.floorAt now) ≤ max (max a.minRps wanted) a.maxDown) := by
  rw [update_of_active active] at taken
  have active' : (a.withConstraint before c after).phase = .active := active
  rw [update_of_active active'] at taken'
  refine ⟨?_, fun wanted mem => held_by_catastrophic taken mem⟩
  obtain ⟨first, last, others, more⟩ := opinionsAt_withConstraint without wants
  rw [more]
  exact restrains_iff taken taken' others more

/-- At 1000, a catastrophic constraint that wants 600. -/
def wants600 : Arbiter Script Unit :=
  new (.new [⟨.catastrophic, [⟨.desireRate 600, 2⟩]⟩] 1000 10 10000 60000000000) 0

/-- And a constraint on the operating point beside it. -/
def beside (rate : ℚ) : Arbiter Script Unit :=
  wants600.withConstraint [⟨.catastrophic, [⟨.desireRate 600, 2⟩]⟩]
    ⟨.operatingPoint, [⟨.desireRate rate, 1⟩]⟩ []

/-- One that wants 700 changes nothing. -/
theorem higher_opinion_restrains :
    ∃ a' decision b' decision',
      wants600.update scripted 1000000000 emptyWindow = some (a', decision) ∧
      (beside 700).update scripted 1000000000 emptyWindow = some (b', decision') ∧
      decision'.targetRps ≤ decision.targetRps ∧ decision.targetRps ≤ 600 := by
  have taken := evaluates (x := wants600.update scripted 1000000000 emptyWindow)
  have taken' := evaluates (x := (beside 700).update scripted 1000000000 emptyWindow)
  have lowestOf : lowest ((beside 700).opinionsAt scriptedConstraint emptyWindow) =
      some (600, .catastrophic) := by decide +kernel
  have lowestOthers : lowest (wants600.opinionsAt scriptedConstraint emptyWindow) =
      some (600, .catastrophic) := by decide +kernel
  have wants : opinionOf scriptedConstraint (wants600.evalContext emptyWindow)
      ⟨.operatingPoint, [⟨.desireRate 700, 1⟩]⟩ = some (700, .operatingPoint) := rfl
  obtain ⟨restrains, held⟩ := constraints_restrain rfl rfl wants taken taken'
  refine ⟨_, _, _, _, taken, taken', restrains.mpr ⟨?_, fun _ _ => .inl ⟨600, lowestOf⟩⟩, ?_⟩
  · rw [lowestOthers]
    simp
  · exact ((held 600 (by decide +kernel)).mpr (.inl ⟨600, lowestOthers⟩)).trans (by decide +kernel)

/-- One that wants 550 takes over, and the rate goes from 600 to 800, although a catastrophic
constraint wants 600. -/
theorem lower_opinion_raises :
    ∃ a' decision b' decision',
      wants600.update scripted 1000000000 emptyWindow = some (a', decision) ∧
      (beside 550).update scripted 1000000000 emptyWindow = some (b', decision') ∧
      550 < wants600.currentRps ∧ decision.targetRps < decision'.targetRps ∧
      (600, .catastrophic) ∈ (beside 550).opinionsAt scriptedConstraint emptyWindow ∧
      max (max (beside 550).minRps 600) (beside 550).maxDown < decision'.targetRps :=
  ⟨_, _, _, _, evaluates, evaluates, by decide +kernel⟩

end Arbiter

end Netanvil.Core
