import FactoryBundler.Proofs.Configuration.Congruence

/-!
# Requests that come out alike

A compiler looks at the members of a configuration that are not void, and adds a title if there is
none. So requests come out alike if these members are spelled alike and their values come out alike,
and they come out alike up to the fault if the same value is the last one under every key.
-/

namespace FactoryBundler

/-- The request with other members in its configuration. -/
def Request.withMembers (request : Request) (members : List (String × Json)) : Request :=
  { request with configuration := .object members }

namespace Compiler

open FactoryBundler.Configuration (underscored lastSpelled SpelledAlike SameSetting)

variable {strict : Prop} {compiler : Compiler} {request : Request}
  {members members' : List (String × Json)}

/-- The values that are as good as nothing. -/
def voidValues : List Json :=
  [.null, .string "", .array [], .object []]

theorem isVoid_iff {value : Json} : value.isVoid = true ↔ value ∈ voidValues := by
  cases value <;> simp [Json.isVoid, voidValues]

/-- The members that count: those that are not void. -/
def kept (members : List (String × Json)) : List (String × Json) :=
  members.filter fun member => decide (member.2 ∉ voidValues)

theorem kept_eq (members : List (String × Json)) :
    kept members = members.filter fun (_, value) => !value.isVoid := by
  refine List.filter_congr fun member _ => ?_
  rw [Bool.eq_iff_iff, decide_eq_true_eq, ← isVoid_iff, Bool.not_eq_true', Bool.not_eq_true]

/-- A compiler sees no more of a configuration than the members that count. -/
theorem compile_eq_of_kept_eq (same : kept members = kept members') :
    compiler.compile (request.withMembers members) =
      compiler.compile (request.withMembers members') := by
  rw [kept_eq, kept_eq] at same
  rw [compile, compile, configure, configure, Request.withMembers, Request.withMembers]
  simp only [configurationMembers, same]

theorem compile_agree
    (agree : Except.Agree strict (Configuration.Settings.Same strict)
      (Configuration.Settings.ofMembers (withTitle request.name (kept members)))
      (Configuration.Settings.ofMembers (withTitle request.name (kept members')))) :
    Except.Agree strict Eq (compiler.compile (request.withMembers members))
      (compiler.compile (request.withMembers members')) := by
  rw [kept_eq, kept_eq] at agree
  refine Except.Agree.bind (r := Eq) (Configuration.build_agree agree) ?_
  rintro configuration _ rfl
  exact .of_eq rfl

/-! ## The title -/

theorem underscored_eq_title_iff {key : String} : underscored key = "title" ↔ key = "title" :=
  Configuration.underscored_eq_iff (by decide) (by decide)

theorem contains_title_eq (members : List (String × Json)) :
    Members.contains "title" members = (lastSpelled "title" members).isSome := by
  rw [Bool.eq_iff_iff, Configuration.isSome_lastSpelled_iff, Members.contains, List.any_eq_true,
    List.mem_map]
  simp only [beq_iff_eq, underscored_eq_title_iff]

theorem lastSpelled_withTitle (setting name : String) (members : List (String × Json)) :
    lastSpelled setting (withTitle name members) =
      (lastSpelled setting members).or
        (if setting = "title" then some (.string (defaultTitle name)) else none) := by
  rw [withTitle, contains_title_eq]
  by_cases isTitle : setting = "title"
  · subst isTitle
    cases given : lastSpelled "title" members with
    | none =>
        rw [Option.isSome_none, if_neg Bool.false_ne_true, Configuration.lastSpelled_append, given]
        simp [lastSpelled, underscored_eq_title_iff]
    | some value =>
        rw [Option.isSome_some, if_pos rfl]
        exact given
  · rw [if_neg isTitle, Option.or_none]
    split
    · rfl
    · exact Configuration.lastSpelled_concat_of_ne
        (fun spelled => isTitle (spelled.symm.trans (underscored_eq_title_iff.mpr rfl)))

/-! ## Whole requests -/

/-- The values that are the last ones under their keys decide what is compiled, if anything is. -/
theorem compile_agree_of_lastSpelled
    (same : ∀ setting, lastSpelled setting (kept members) = lastSpelled setting (kept members')) :
    Except.Agree False Eq (compiler.compile (request.withMembers members))
      (compiler.compile (request.withMembers members')) := by
  have titled (setting : String) :
      lastSpelled setting (withTitle request.name (kept members)) =
        lastSpelled setting (withTitle request.name (kept members')) := by
    rw [lastSpelled_withTitle, lastSpelled_withTitle, same]
  have perm := Configuration.respell_perm titled
  refine compile_agree ((Configuration.Settings.ofMembers_agree_of_perm perm).imp ?_)
  rintro settings _ rfl
  exact .refl settings

theorem spelledAlike_withTitle (name : String)
    (alike : SpelledAlike (SameSetting strict) members members') :
    SpelledAlike (SameSetting strict) (withTitle name members) (withTitle name members') := by
  have titled : Members.contains "title" members = Members.contains "title" members' := by
    rw [contains_title_eq, contains_title_eq, Bool.eq_iff_iff, Configuration.isSome_lastSpelled_iff,
      Configuration.isSome_lastSpelled_iff, alike.keys_eq]
  rw [withTitle, withTitle, titled]
  split
  · exact alike
  · exact List.rel_append alike (.cons ⟨rfl, .coerced rfl⟩ .nil)

/-- Members that are spelled alike and come out alike, one for one, make requests that do. -/
theorem compile_agree_of_spelledAlike
    (alike : SpelledAlike (SameSetting strict) (kept members) (kept members')) :
    Except.Agree strict Eq (compiler.compile (request.withMembers members))
      (compiler.compile (request.withMembers members')) :=
  compile_agree (Configuration.ofMembers_agree (spelledAlike_withTitle request.name alike))

end Compiler

end FactoryBundler
