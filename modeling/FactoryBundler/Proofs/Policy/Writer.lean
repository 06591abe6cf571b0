import FactoryBundler.Policy

/-!
# Laws of the policy writer

What steps of writing amount to. If levels are entered and left in pairs, the writer comes back to
the level at which it started, and what it has written there depends on that level alone, not on
what stood there before. So the parts of a policy can be looked at one by one.
-/

namespace FactoryBundler.Policy

/-- Every level that the steps leave had been entered before them or on the way, so that the depth
never has to stop at zero. -/
def Writer.LeavesEntered : Writer → List Step → Prop
  | _, [] => True
  | writer, step :: more =>
    (step = .leave → 0 < writer.depth) ∧ (writer.take step).LeavesEntered more

/-- Steps that enter and leave levels in pairs, and the lines that they write if they start at the
given level. -/
inductive Writes : Nat → List Step → List String → Prop
  | nil {level : Nat} : Writes level [] []
  | line {level : Nat} {steps : List Step} {lines : List String} (text : String) :
      Writes level steps lines → Writes level (.line text :: steps) (indented level text :: lines)
  | blank {level : Nat} {steps : List Step} {lines : List String} :
      Writes level steps lines → Writes level (.blank :: steps) ("" :: lines)
  | nested {level : Nat} {inner steps : List Step} {innerLines lines : List String} :
      Writes (level + 1) inner innerLines → Writes level steps lines →
      Writes level ([.enter] ++ inner ++ [.leave] ++ steps) (innerLines ++ lines)

/-- Steps from the very start that end one level inside what they opened, and their lines. -/
structure Opens (steps : List Step) (lines : List String) : Prop where
  run_eq : Writer.start.run steps = ⟨lines, 1⟩
  leavesEntered : Writer.start.LeavesEntered steps

variable {writer : Writer} {level : Nat} {steps more : List Step} {lines moreLines : List String}

/-! ## Runs in parts -/

namespace Writer

theorem run_append (writer : Writer) (steps more : List Step) :
    writer.run (steps ++ more) = (writer.run steps).run more :=
  List.foldl_append

theorem leavesEntered_append_iff :
    writer.LeavesEntered (steps ++ more) ↔
      writer.LeavesEntered steps ∧ (writer.run steps).LeavesEntered more := by
  induction steps generalizing writer with
  | nil => exact (true_and _).symm.to_iff
  | cons step steps ih =>
      rw [List.cons_append, LeavesEntered, LeavesEntered, ih, and_assoc]
      rfl

end Writer

/-! ## Steps in pairs -/

namespace Writes

theorem run_eq (writes : Writes level steps lines) (written : List String) :
    (Writer.mk written level).run steps = ⟨written ++ lines, level⟩ := by
  induction writes generalizing written with
  | nil => exact congrArg (Writer.mk · _) (List.append_nil written).symm
  | @line level steps lines text _ ih =>
      have rest := ih (written ++ [indented level text])
      rwa [List.append_assoc] at rest
  | blank _ ih =>
      have rest := ih (written ++ [""])
      rwa [List.append_assoc] at rest
  | nested _ _ ihInner ih =>
      -- The level entered for the inner steps is left again right behind them.
      rw [Writer.run_append, Writer.run_append, Writer.run_append]
      change (((Writer.mk written _).run _).run [.leave]).run _ = _
      rw [ihInner, ← List.append_assoc]
      exact ih _

theorem leavesEntered (writes : Writes level steps lines) (written : List String) :
    (Writer.mk written level).LeavesEntered steps := by
  induction writes generalizing written with
  | nil => exact trivial
  | line text _ ih => exact ⟨nofun, ih _⟩
  | blank _ ih => exact ⟨nofun, ih _⟩
  | @nested level inner steps innerLines lines hInner _ ihInner ih =>
      have entered : (Writer.mk written level).run [.enter] = ⟨written, level + 1⟩ := rfl
      rw [List.append_assoc, List.append_assoc, Writer.leavesEntered_append_iff, entered,
        Writer.leavesEntered_append_iff, hInner.run_eq]
      exact ⟨⟨nofun, trivial⟩, ihInner written, fun _ => Nat.succ_pos level, ih _⟩

theorem map_line (level : Nat) (texts : List String) :
    Writes level (texts.map .line) (texts.map (indented level)) := by
  induction texts with
  | nil => exact .nil
  | cons text texts ih => exact .line text ih

end Writes

theorem Opens.append (opens : Opens steps lines) (writes : Writes 1 more moreLines) :
    Opens (steps ++ more) (lines ++ moreLines) where
  run_eq := by
    rw [Writer.run_append, opens.run_eq]
    exact writes.run_eq lines
  leavesEntered := by
    rw [Writer.leavesEntered_append_iff, opens.run_eq]
    exact ⟨opens.leavesEntered, writes.leavesEntered lines⟩

end FactoryBundler.Policy
