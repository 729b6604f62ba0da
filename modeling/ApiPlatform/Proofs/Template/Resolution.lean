import ApiPlatform.Template.Processing
/-!
# The values of parameters

A parameter takes the first value that there is: the supplied one, its default, a generated one,
or the empty text if it may.  Parameters are resolved in the order of their declaration; each draws
what those before it left, and the first that lacks a value decides.
-/

namespace ApiPlatform

theorem Draws.drop_zero (d : Draws) : d.drop 0 = d := by
  funext i
  rw [Draws.drop, Nat.zero_add]

theorem Draws.drop_drop (d : Draws) (m n : Nat) : (d.drop m).drop n = d.drop (m + n) := by
  funext i
  rw [Draws.drop, Draws.drop, Draws.drop, Nat.add_assoc]

namespace Parameter

/-- Whether a parameter falls back on an expression. -/
def Generates (p : Parameter) (expression : String) : Prop :=
  p.generate = some byExpression ∧ p.source = some expression

/-- The value of a parameter when `supplied` is asked for and `d` are the draws that are left. -/
inductive Takes (p : Parameter) (supplied : Option String) (d : Draws) : String → Prop where
  | supplied {value : String} (hsupplied : supplied = some value) : Takes p supplied d value
  | default {value : String} (hsupplied : supplied = none) (hvalue : p.value = some value) :
    Takes p supplied d value
  | generated {text : String} {e : Generator.Expression} (hsupplied : supplied = none)
    (hvalue : p.value = none) (hgenerates : p.Generates text)
    (htext : Generator.Expression.ofText? text = some e) : Takes p supplied d (e.generate d)
  | empty (hsupplied : supplied = none) (hvalue : p.value = none)
    (hgenerates : ∀ text, ¬ p.Generates text) (hrequired : p.required = false) :
    Takes p supplied d ""

/-- Why a parameter has no value. -/
inductive Lacks (p : Parameter) (supplied : Option String) : BundleError → Prop where
  | expression {text : String} (hsupplied : supplied = none) (hvalue : p.value = none)
    (hgenerates : p.Generates text) (htext : Generator.Expression.ofText? text = none) :
    Lacks p supplied (.invalidGeneratorExpression p.name text)
  | value (hsupplied : supplied = none) (hvalue : p.value = none)
    (hgenerates : ∀ text, ¬ p.Generates text) (hrequired : p.required = true) :
    Lacks p supplied (.missingParameterValue p.name)

/-- How many draws a parameter makes. -/
def drawn (p : Parameter) (supplied : Option String) : Nat :=
  match supplied.or p.value, p.expression?.bind Generator.Expression.ofText? with
  | none, some e => e.length
  | _, _ => 0

variable {p : Parameter} {supplied : Option String} {d d' : Draws} {value : String}
variable {e : BundleError}

theorem expression?_eq_some {text : String} : p.expression? = some text ↔ p.Generates text := by
  unfold expression? Generates
  split <;> simp [*]

theorem expression?_eq_none : p.expression? = none ↔ ∀ text, ¬ p.Generates text := by
  simp only [Option.eq_none_iff_forall_ne_some, ne_eq, expression?_eq_some]

theorem resolve_of_takes (h : p.Takes supplied d value) :
    p.resolve supplied d = .ok (value, d.drop (p.drawn supplied)) := by
  cases h with
  | supplied hsupplied =>
      rw [resolve, drawn, hsupplied, Option.some_or, Draws.drop_zero]
  | default hsupplied hvalue =>
      rw [resolve, drawn, hsupplied, hvalue, Option.none_or, Draws.drop_zero]
  | generated hsupplied hvalue hgenerates htext =>
      rw [resolve, drawn, hsupplied, hvalue, Option.none_or, expression?_eq_some.2 hgenerates,
        Option.bind_some]
      dsimp only
      rw [htext]
  | empty hsupplied hvalue hgenerates hrequired =>
      rw [resolve, drawn, hsupplied, hvalue, Option.none_or, expression?_eq_none.2 hgenerates,
        Option.bind_none]
      dsimp only
      rw [hrequired, Draws.drop_zero]
      rfl

theorem resolve_of_lacks (h : p.Lacks supplied e) : p.resolve supplied d = .error e := by
  cases h with
  | expression hsupplied hvalue hgenerates htext =>
      rw [resolve, hsupplied, hvalue, Option.none_or, expression?_eq_some.2 hgenerates]
      dsimp only
      rw [htext]
  | value hsupplied hvalue hgenerates hrequired =>
      rw [resolve, hsupplied, hvalue, Option.none_or, expression?_eq_none.2 hgenerates]
      dsimp only
      rw [hrequired]
      rfl

theorem takes_or_lacks (p : Parameter) (supplied : Option String) (d : Draws) :
    (∃ value, p.Takes supplied d value) ∨ ∃ e, p.Lacks supplied e := by
  cases hsupplied : supplied with
  | some value => exact .inl ⟨value, .supplied rfl⟩
  | none =>
      cases hvalue : p.value with
      | some value => exact .inl ⟨value, .default rfl hvalue⟩
      | none =>
          cases hexpression : p.expression? with
          | none =>
              have hgenerates := expression?_eq_none.1 hexpression
              cases hrequired : p.required with
              | true => exact .inr ⟨_, .value rfl hvalue hgenerates hrequired⟩
              | false => exact .inl ⟨"", .empty rfl hvalue hgenerates hrequired⟩
          | some text =>
              have hgenerates := expression?_eq_some.1 hexpression
              cases htext : Generator.Expression.ofText? text with
              | none => exact .inr ⟨_, .expression rfl hvalue hgenerates htext⟩
              | some e => exact .inl ⟨_, .generated rfl hvalue hgenerates htext⟩

theorem resolve_eq_ok :
    p.resolve supplied d = .ok (value, d') ↔
      p.Takes supplied d value ∧ d' = d.drop (p.drawn supplied) := by
  constructor
  · intro h
    rcases takes_or_lacks p supplied d with ⟨value', htakes⟩ | ⟨e', hlacks⟩
    · rw [resolve_of_takes htakes] at h
      cases h
      exact ⟨htakes, rfl⟩
    · rw [resolve_of_lacks hlacks] at h
      cases h
  · rintro ⟨htakes, rfl⟩
    exact resolve_of_takes htakes

theorem Takes.not_lacks (h : p.Takes supplied d value) (e : BundleError) : ¬ p.Lacks supplied e := by
  intro hlacks
  cases (resolve_of_takes h).symm.trans (resolve_of_lacks hlacks)

theorem Lacks.unique {e' : BundleError} (h : p.Lacks supplied e) (h' : p.Lacks supplied e') :
    e = e' := by
  have heq := (resolve_of_lacks (d := id) h).symm.trans (resolve_of_lacks h')
  cases heq
  rfl

end Parameter

namespace Bundle

variable {supplied supplied' : SortedMap String String} {ps : List Parameter} {d : Draws}
variable {values : List (String × String)} {e : BundleError}

/-- How many draws a list of parameters makes. -/
def drawnBy (supplied : SortedMap String String) : List Parameter → Nat
  | [] => 0
  | p :: ps => p.drawn (supplied.get? p.name) + drawnBy supplied ps

/-- The first parameter without a value, and what it lacks. -/
def FirstLacking (supplied : SortedMap String String) (ps : List Parameter) (e : BundleError) :
    Prop :=
  ∃ before p after, ps = before ++ p :: after ∧
    (∀ q ∈ before, ∀ e', ¬ q.Lacks (supplied.get? q.name) e') ∧ p.Lacks (supplied.get? p.name) e

variable {p : Parameter} {value : String}

theorem resolveParameters_of_takes (h : p.Takes (supplied.get? p.name) d value) :
    resolveParameters supplied (p :: ps) d =
      (resolveParameters supplied ps (d.drop (p.drawn (supplied.get? p.name)))).map
        ((p.name, value) :: ·) := by
  rw [resolveParameters, Parameter.resolve_of_takes h]
  rfl

theorem resolveParameters_of_lacks (h : p.Lacks (supplied.get? p.name) e) :
    resolveParameters supplied (p :: ps) d = .error e := by
  rw [resolveParameters, Parameter.resolve_of_lacks h]
  rfl

theorem firstLacking_cons :
    FirstLacking supplied (p :: ps) e ↔
      p.Lacks (supplied.get? p.name) e ∨
        (∀ e', ¬ p.Lacks (supplied.get? p.name) e') ∧ FirstLacking supplied ps e := by
  constructor
  · rintro ⟨before, q, after, heq, hbefore, hq⟩
    cases before with
    | nil =>
        cases heq
        exact .inl hq
    | cons p' before =>
        cases heq
        obtain ⟨hp, hbefore⟩ := List.forall_mem_cons.1 hbefore
        exact .inr ⟨hp, before, q, after, rfl, hbefore, hq⟩
  · rintro (hp | ⟨hp, before, q, after, rfl, hbefore, hq⟩)
    · exact ⟨[], p, ps, rfl, by simp, hp⟩
    · exact ⟨p :: before, q, after, rfl, List.forall_mem_cons.2 ⟨hp, hbefore⟩, hq⟩

/-- Parameters cannot be resolved exactly if one of them lacks a value; the first decides. -/
theorem resolveParameters_eq_error :
    resolveParameters supplied ps d = .error e ↔ FirstLacking supplied ps e := by
  induction ps generalizing d with
  | nil =>
      constructor
      · intro h
        cases h
      · rintro ⟨before, p, after, heq, -⟩
        simp at heq
  | cons p ps ih =>
      rw [firstLacking_cons]
      rcases p.takes_or_lacks (supplied.get? p.name) d with ⟨value, htakes⟩ | ⟨e', hlacks⟩
      · have hnone := htakes.not_lacks
        have hmap : ∀ x : Except BundleError (List (String × String)),
            x.map ((p.name, value) :: ·) = .error e ↔ x = .error e := by
          intro x
          cases x <;> simp [Except.map]
        rw [resolveParameters_of_takes htakes, hmap, ih]
        exact ⟨fun h => .inr ⟨hnone, h⟩, fun h => (h.resolve_left (hnone e)).2⟩
      · rw [resolveParameters_of_lacks hlacks]
        constructor
        · intro h
          cases h
          exact .inl hlacks
        · rintro (h | ⟨h, -⟩)
          · rw [hlacks.unique h]
          · exact absurd hlacks (h e')

theorem map_fst_of_resolveParameters (h : resolveParameters supplied ps d = .ok values) :
    values.map (·.1) = ps.map (·.name) := by
  induction ps generalizing d values with
  | nil =>
      cases h
      rfl
  | cons p ps ih =>
      obtain ⟨⟨value, d'⟩, -, hrest⟩ := Failure.bind_eq_ok.1 h
      obtain ⟨values', hvalues, heq⟩ := Failure.bind_eq_ok.1 hrest
      cases heq
      exact congrArg (p.name :: ·) (ih hvalues)

/-- Each parameter takes its value with the draws that those before it left. -/
theorem exists_value_of_resolveParameters {before after : List Parameter}
    (h : resolveParameters supplied (before ++ p :: after) d = .ok values) :
    ∃ front value back, values = front ++ (p.name, value) :: back ∧
      back.map (·.1) = after.map (·.name) ∧
      p.Takes (supplied.get? p.name) (d.drop (drawnBy supplied before)) value := by
  induction before generalizing d values with
  | nil =>
      obtain ⟨⟨value, d'⟩, hresolve, hrest⟩ := Failure.bind_eq_ok.1 h
      obtain ⟨values', hvalues, heq⟩ := Failure.bind_eq_ok.1 hrest
      cases heq
      refine ⟨[], value, values', rfl, map_fst_of_resolveParameters hvalues, ?_⟩
      have hdraws : d.drop (drawnBy supplied []) = d := Draws.drop_zero d
      rw [hdraws]
      exact (Parameter.resolve_eq_ok.1 hresolve).1
  | cons q before ih =>
      obtain ⟨⟨value, d'⟩, hresolve, hrest⟩ := Failure.bind_eq_ok.1 h
      obtain ⟨values', hvalues, heq⟩ := Failure.bind_eq_ok.1 hrest
      cases heq
      obtain ⟨front, value', back, rfl, hback, htakes⟩ := ih hvalues
      refine ⟨(q.name, value) :: front, value', back, rfl, hback, ?_⟩
      -- `q` leaves `d'`, with which the rest of `before` begins.
      have hdraws : d'.drop (drawnBy supplied before) = d.drop (drawnBy supplied (q :: before)) := by
        rw [(Parameter.resolve_eq_ok.1 hresolve).2, Draws.drop_drop]
        rfl
      rwa [← hdraws]

/-- Only the values of declared parameters count. -/
theorem resolveParameters_congr
    (h : ∀ p ∈ ps, supplied.get? p.name = supplied'.get? p.name) (d : Draws) :
    resolveParameters supplied ps d = resolveParameters supplied' ps d := by
  induction ps generalizing d with
  | nil => rfl
  | cons p ps ih =>
      obtain ⟨hp, hrest⟩ := List.forall_mem_cons.1 h
      simp only [resolveParameters, hp, ih hrest]

end Bundle

end ApiPlatform
