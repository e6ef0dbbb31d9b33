import JogShuttle.Proofs.Rule.KeyHalves
import JogShuttle.Proofs.Rule.Refresh

/-!
# Slots that belong to no key

Levels and steps of the ring and detents of the dial send one sequence each, all of it at once. So
whatever table is in effect, and from whichever section a sequence comes, it lets go of everything
that it presses.
-/

set_option autoImplicit false

namespace JogShuttle

open Rule Stroke

namespace Build

theorem settled_press {ts : List Step} {r : Halves} (h : Halves.ofSteps? false ts = .ok r) :
    Settled r.press := by
  have hsettled := settled_halves h
  rwa [release_eq_nil h, List.append_nil] at hsettled

end Build

variable {v : Vocabulary} {debug : DebugFlags} {text : String} {t : Table} {b : Block} {s : Section}
variable {slot : Slot}

theorem Rule.Line.not_isKey_of_defines? {l : Line} {u : Target} {tokens : List Token}
    (h : l.defines? slot = some (u, tokens)) (hslot : slot.isKey = false) : u.isKey = false := by
  obtain ⟨hdef, hcovers⟩ := defines?_eq_some_iff.mp h
  rcases Target.key_or_single (mem_all_of_definition? hdef) with ⟨n, rfl⟩ | ⟨x, rfl, -⟩
  · rcases Target.covers_key.mp hcovers with rfl | rfl
    · cases hslot
    · cases hslot
  · rfl

/-- A section binds a slot of no key to a sequence that lets go of everything. -/
theorem Rule.SectionOf.settled_binding (h : SectionOf v b s) (hslot : slot.isKey = false) :
    ∃ strokes, Settled strokes ∧ s.binding slot = Section.bound? strokes := by
  have hbound := h.bound slot
  unfold BoundBy at hbound
  split at hbound
  · exact ⟨[], settled_nil, hbound⟩
  · next u tokens hp =>
    obtain ⟨r, hr, hbinding⟩ := hbound
    obtain ⟨l, -, hl⟩ := List.exists_of_findSome?_eq_some hp
    have hu := Line.not_isKey_of_defines? hl hslot
    unfold Built at hr
    rw [hu] at hr
    exact ⟨r.press, Build.settled_press hr, by rw [hbinding, r.half_of_single hslot]⟩

namespace Table

/-- Slots of no key leave nothing pressed, whichever section governs. -/
def SettlesSingles (t : Table) : Prop :=
  ∀ i slot, slot.isKey = false → Settled (t.resolve i slot)

theorem settled_bindingAt (h : (compile v debug text).result = .ok t) (i : Option Nat)
    (hslot : slot.isKey = false) :
    ∃ strokes, Settled strokes ∧ t.bindingAt i slot = Section.bound? strokes := by
  unfold bindingAt
  cases hs : t.sectionAt i with
  | none => exact ⟨[], settled_nil, rfl⟩
  | some s =>
    obtain ⟨b, hsec⟩ := exists_sectionOf h hs
    exact hsec.settled_binding hslot

theorem settlesSingles_of_compile (h : (compile v debug text).result = .ok t) :
    t.SettlesSingles := by
  intro i slot hslot
  obtain ⟨own, hown, ho⟩ := settled_bindingAt h i hslot
  obtain ⟨fallback, hfallback, hf⟩ := settled_bindingAt h t.default hslot
  rw [resolve_eq ho hf]
  split
  · exact hfallback
  · exact hown

end Table

namespace RuleFile

variable {source : RuleSource} {r : RuleFile} {f : FileView}

/-- Before the first refresh no slot sends anything. -/
theorem resolve_initial (source : RuleSource) (i : Option Nat) (slot : Slot) :
    (initial source).table.resolve i slot = [] := by
  cases i <;> rfl

theorem settlesSingles_initial (source : RuleSource) : (initial source).table.SettlesSingles := by
  intro i slot _
  rw [resolve_initial]
  exact settled_nil

theorem settlesSingles_refresh (h : r.table.SettlesSingles) (source : RuleSource) (f : FileView) :
    (r.refresh source f).file.table.SettlesSingles := by
  rcases refresh_cases r source f with ⟨htable, -, -⟩ | ⟨text, -, hcompile, -, -⟩
  · rwa [htable]
  · exact Table.settlesSingles_of_compile hcompile

end RuleFile

end JogShuttle
