import JogShuttle.Proofs.Sequence.Reachable
import JogShuttle.Rule.Output

/-!
# The items of an output

The tokens behind a designator are items: quoted texts, the boundary word, and keysym names with or
without a suffix, up to a comment. Each item stands for steps and has its own problems, whatever
stands around it. The steps of an output are such that a build takes them: the boundary is crossed
by keys only, and every other step has its symbol.
-/

set_option autoImplicit false

namespace JogShuttle

namespace Output

variable {names : KeysymTable} {isKey : Bool}

inductive Item where
  | typed (text : List Char)
  | boundary
  | plain (name : String)
  | suffixed (name : String) (suffix : List Char)
  /-- A name whose suffix is missing at the end of the line. -/
  | cut (name : String)

def items : List Token → List Item
  | [] => []
  | t :: ts =>
    if t.quoted then .typed t.text :: items ts
    else if isComment t.text then []
    else
      let name := String.ofList t.text
      if t.hasSuffix then
        match ts with
        | [] => [if name = boundaryWord then .boundary else .cut name]
        | suffix :: rest =>
          (if name = boundaryWord then .boundary else .suffixed name suffix.text) :: items rest
      else (if name = boundaryWord then .boundary else .plain name) :: items ts

/-- What an item stands for. -/
def Item.output (names : KeysymTable) (isKey : Bool) : Item → Output
  | typed cs => ofText cs
  | boundary => Output.boundary isKey
  | plain name => ofName names .tap name
  | suffixed name suffix => ofSuffixed names name suffix
  | cut name => problem (.missingModifier name)

/-- A name that no keysym has. -/
def nameProblems (names : KeysymTable) (name : String) : List Problem :=
  if (names.resolve name).isSome then [] else [.unknownKeysym name]

/-- What is wrong with an item. -/
def Item.problems (names : KeysymTable) (isKey : Bool) : Item → List Problem
  | typed _ => []
  | boundary => if isKey then [] else [.boundaryIgnored]
  | plain name => nameProblems names name
  | suffixed name suffix =>
    (if (markOf? suffix).isSome then [] else [.invalidModifier (String.ofList suffix)]) ++
      nameProblems names name
  | cut name => [.missingModifier name]

@[simp] theorem steps_append (a b : Output) : (a ++ b).steps = a.steps ++ b.steps := rfl

@[simp] theorem problems_append (a b : Output) : (a ++ b).problems = a.problems ++ b.problems := rfl

@[simp] theorem append_nothing (a : Output) : a ++ nothing = a := by
  obtain ⟨steps, problems⟩ := a
  change Output.mk (steps ++ []) (problems ++ []) = _
  rw [List.append_nil, List.append_nil]

/-- An output is put together from its items. -/
theorem ofTokens_eq (names : KeysymTable) (isKey : Bool) (ts : List Token) :
    ofTokens names isKey ts =
      ((items ts).map (Item.output names isKey)).foldr (· ++ ·) nothing := by
  fun_induction ofTokens names isKey ts with
  | case1 => rfl
  | case2 t ts hq ih => simp [items, hq, ih, Item.output]
  | case3 t ts hq hc => simp [items, hq, hc]
  | case4 t hq hc name hs hb =>
    change String.ofList t.text = boundaryWord at hb
    simp [items, hq, hc, hs, hb, Item.output]
  | case5 t hq hc name hs hb =>
    change ¬String.ofList t.text = boundaryWord at hb
    simp [items, hq, hc, hs, hb, Item.output, name]
  | case6 t hq hc name hs suffix rest ih =>
    simp only [items, hq, hc, hs, ih]
    by_cases hb : String.ofList t.text = boundaryWord
    · simp [hb, name, Item.output]
    · simp [hb, name, Item.output]
  | case7 t ts hq hc name hs ih =>
    by_cases hb : String.ofList t.text = boundaryWord
    · simp [items, hq, hc, hs, hb, name, Item.output, ih]
    · simp [items, hq, hc, hs, hb, name, Item.output, ih]

theorem problems_ofName (mark : Mark) (name : String) :
    (ofName names mark name).problems = nameProblems names name := by
  unfold ofName nameProblems
  cases names.resolve name <;> rfl

theorem problems_ofSuffixed (name : String) (suffix : List Char) :
    (ofSuffixed names name suffix).problems =
      (if (markOf? suffix).isSome then [] else [.invalidModifier (String.ofList suffix)]) ++
        nameProblems names name := by
  unfold ofSuffixed
  cases markOf? suffix with
  | none => simp [problems_ofName, problem]
  | some m => simp [problems_ofName]

theorem Item.problems_output (i : Item) :
    (i.output names isKey).problems = i.problems names isKey := by
  cases i with
  | typed cs => rfl
  | boundary => cases isKey <;> rfl
  | plain name => exact problems_ofName .tap name
  | suffixed name suffix => exact problems_ofSuffixed name suffix
  | cut name => rfl

theorem problems_ofTokens (ts : List Token) :
    (ofTokens names isKey ts).problems = (items ts).flatMap (Item.problems names isKey) := by
  rw [ofTokens_eq]
  induction items ts with
  | nil => rfl
  | cons i is ih =>
    rw [List.map_cons, List.foldr_cons, problems_append, ih, i.problems_output,
      List.flatMap_cons]

end Output

/-- Steps that a build takes: the boundary in a key, and marks with their symbols. -/
def Step.Fits (isKey : Bool) (t : Step) : Prop :=
  if t.mark = .release then isKey = true else t.symbol.isSome = true

namespace Build

theorem exists_step {b : Build} {t : Step} (h : t.Fits b.split) :
    ∃ b', b.step t = .ok b' ∧ b'.split = b.split := by
  obtain ⟨mark, symbol⟩ := t
  cases mark with
  | release =>
    have hs : b.split = true := h
    exact ⟨b.cross, by simp [step, hs], by simp [cross]⟩
  | tap =>
    obtain ⟨s, rfl⟩ := Option.isSome_iff_exists.mp h
    exact ⟨_, rfl, by simp [tap]⟩
  | down =>
    obtain ⟨s, rfl⟩ := Option.isSome_iff_exists.mp h
    exact ⟨_, rfl, by simp [setModifier]⟩
  | up =>
    obtain ⟨s, rfl⟩ := Option.isSome_iff_exists.mp h
    exact ⟨_, rfl, by simp [setModifier]⟩
  | hold =>
    obtain ⟨s, rfl⟩ := Option.isSome_iff_exists.mp h
    exact ⟨_, rfl, by simp [setModifier]⟩

theorem exists_steps {b : Build} {ts : List Step} (h : ∀ t ∈ ts, t.Fits b.split) :
    ∃ b', b.steps ts = .ok b' := by
  induction ts generalizing b with
  | nil => exact ⟨b, rfl⟩
  | cons t ts ih =>
    obtain ⟨ht, hts⟩ := List.forall_mem_cons.mp h
    obtain ⟨c, hc, hsplit⟩ := exists_step ht
    obtain ⟨b', hb'⟩ := ih (by rwa [hsplit])
    exact ⟨b', steps_cons_ok_iff.mpr ⟨c, hc, hb'⟩⟩

end Build

theorem Halves.exists_ofSteps? {split : Bool} {ts : List Step} (h : ∀ t ∈ ts, t.Fits split) :
    ∃ r, Halves.ofSteps? split ts = .ok r := by
  obtain ⟨b, hb⟩ := Build.exists_steps (b := { split }) h
  exact ⟨b.finish.halves, Halves.ofSteps?_ok_iff.mpr ⟨b, hb, rfl⟩⟩

namespace Output

variable {names : KeysymTable} {isKey : Bool}

theorem fits_ofName {mark : Mark} (hm : mark ≠ .release) (name : String) :
    ∀ t ∈ (ofName names mark name).steps, t.Fits isKey := by
  unfold ofName
  cases names.resolve name with
  | none => simp [problem]
  | some s => simp [step, Step.Fits, hm]

theorem markOf?_ne_release {suffix : List Char} {mark : Mark} (h : markOf? suffix = some mark) :
    mark ≠ .release := by
  unfold markOf? at h
  split at h <;> cases h <;> decide

theorem fits_ofSuffixed (name : String) (suffix : List Char) :
    ∀ t ∈ (ofSuffixed names name suffix).steps, t.Fits isKey := by
  unfold ofSuffixed
  cases hm : markOf? suffix with
  | none =>
    rw [steps_append]
    exact List.forall_mem_append.mpr ⟨by simp [problem], fits_ofName (by decide) name⟩
  | some m => exact fits_ofName (markOf?_ne_release hm) name

theorem Item.fits_output (i : Item) : ∀ t ∈ (i.output names isKey).steps, t.Fits isKey := by
  cases i with
  | typed cs =>
    intro t ht
    obtain ⟨c, _, rfl⟩ := List.mem_map.mp ht
    rfl
  | boundary =>
    cases isKey with
    | false => exact fun t ht => absurd ht List.not_mem_nil
    | true =>
      intro t ht
      rw [List.mem_singleton.mp ht]
      rfl
  | plain name => exact fits_ofName (by decide) name
  | suffixed name suffix => exact fits_ofSuffixed name suffix
  | cut name => exact fun t ht => absurd ht List.not_mem_nil

/-- Every output can be built. -/
theorem fits_ofTokens (ts : List Token) :
    ∀ t ∈ (ofTokens names isKey ts).steps, t.Fits isKey := by
  rw [ofTokens_eq]
  induction items ts with
  | nil => simp [nothing]
  | cons i is ih =>
    rw [List.map_cons, List.foldr_cons, steps_append]
    exact List.forall_mem_append.mpr ⟨i.fits_output, ih⟩

end Output

end JogShuttle
