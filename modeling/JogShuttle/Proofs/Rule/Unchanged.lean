import JogShuttle.Proofs.Rule.Refresh

/-!
# Refreshes of an unchanged file

A refresh leaves nothing to be found out about the file as it stands: either the reason for which it
cannot be looked at is the one reported last, or a time at which it is no news has been recorded. So
a second refresh of the same file changes nothing and reports nothing, and neither does any later
one.
-/

set_option autoImplicit false

namespace JogShuttle.RuleFile

variable {s : RuleSource} {r : RuleFile} {f : FileView} {fs : List FileView}

/-- What is remembered of a file already tells all that a refresh would find out about it. -/
inductive Settled (s : RuleSource) (r : RuleFile) (f : FileView) : Prop where
  | reported {e : SystemError} (hm : f.modified = .error e)
      (hr : r.lastError = some (s.path ++ ": " ++ e.message)) : Settled s r f
  | recorded {n : Int} (hn : f.stamp? = some n) (hold : r.isNews n = false) : Settled s r f

theorem Settled.refresh_eq (h : Settled s r f) : r.refresh s f = { file := r } := by
  cases h with
  | reported hm hr =>
    unfold refresh fail
    simp only [hm, ← hr, if_true]
  | recorded hn hold =>
    rw [refresh_of_stamp? hn, hold]
    rfl

/-- Whatever a refresh comes to, it settles the file: it reports why the file cannot be looked at, or
records its time before anything can go wrong with its text. -/
theorem settled_refresh (r : RuleFile) (s : RuleSource) (f : FileView) :
    Settled s (r.refresh s f).file f := by
  cases hm : f.modified with
  | error e =>
    refine .reported hm ?_
    unfold refresh
    simp only [hm, fail]
  | ok time =>
    have hn : f.stamp? = some (stamp time) := by simp [FileView.stamp?, hm, Except.toOption]
    refine .recorded hn ?_
    -- the time of the file is not newer than itself
    rw [Bool.eq_false_iff]
    intro hnews
    exact Int.lt_irrefl _ ((isNews_refresh.mp hnews).2 _ hn)

theorem refreshed_replicate (s : RuleSource) (fs : List FileView) (f : FileView) (n : Nat) :
    refreshed s (fs ++ List.replicate (n + 1) f) = refreshed s (fs ++ [f]) := by
  induction n with
  | zero => rfl
  | succ n ih =>
    have hsettled : Settled s (refreshed s (fs ++ [f])) f := by
      rw [refreshed_append]
      exact settled_refresh (refreshed s fs) s f
    rw [List.replicate_succ', ← List.append_assoc, refreshed_append, ih, hsettled.refresh_eq]

/-- Once the file has been refreshed, every further refresh of the unchanged file leaves all that is
remembered as the first one left it, with the table of the same build in effect, and reports
nothing: whatever came before, and whether the file is missing, unreadable, old or news. -/
theorem refresh_of_unchanged_file (s : RuleSource) (fs : List FileView) (f : FileView) (n : Nat) :
    (refreshed s (fs ++ List.replicate (n + 1) f)).refresh s f =
      { file := refreshed s (fs ++ [f]), logs := [], fault := none } := by
  rw [refreshed_replicate, refreshed_append]
  exact (settled_refresh (refreshed s fs) s f).refresh_eq

end JogShuttle.RuleFile
