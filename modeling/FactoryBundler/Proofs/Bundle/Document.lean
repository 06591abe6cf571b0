import FactoryBundler.Proofs.Bundle.Wire
import FactoryBundler.Proofs.Json.SkimGrammar
import FactoryBundler.Proofs.Json.Values

/-!
# The grammar of wire documents

Which bytes are a wire document, said without a reader: an object that holds each of the four fields
once and whatever else under other keys, or an array of the four fields in order. The fields are
texts and a value that is at most 126 levels deep; of what stands under other keys no more than the
shape is looked at. The reader takes just these documents.
-/

namespace FactoryBundler.Wire

open Json (IsSpace IsString IsValue IsLoose IsMember Bracketed Elements Begins Reads BehindKey
  EndsNumber)

variable {known known' : Partial} {wire : Wire} {key : String}
  {input rest token before after : List UInt8} {fuel : Nat}

/-! ## The grammar -/

/-- The keys of a document, in order. -/
def fieldKeys : List String := ["version", "policy", "policy_branch", "schema"]

theorem notMem_fieldKeys_iff :
    key ∉ fieldKeys ↔
      key ≠ "version" ∧ key ≠ "policy" ∧ key ≠ "policy_branch" ∧ key ≠ "schema" := by
  simp [fieldKeys]

/-- What a token under a key has to be in a document with these fields. -/
def Holds (wire : Wire) (key : String) (token : List UInt8) : Prop :=
  match key with
  | "version" => IsString wire.version token
  | "policy" => IsString wire.policy token
  | "policy_branch" => IsString wire.policyBranch token
  | "schema" => IsValue 126 wire.schema token
  | _ => IsLoose token

/-- The members of a document: each field is there once. -/
structure AreMembers (wire : Wire) (members : List (String × List UInt8)) : Prop where
  hold : ∀ member ∈ members, wire.Holds member.1 member.2
  once : ∀ field ∈ fieldKeys, (members.map Prod.fst).count field = 1

/-- A document that is an object. -/
inductive IsObject (wire : Wire) (token : List UInt8) : Prop
  | members {members : List (String × List UInt8)}
      (bracketed : Bracketed (IsMember Eq) '\x7b'.toUInt8 '\x7d'.toUInt8 members token)
      (areMembers : wire.AreMembers members) : IsObject wire token

/-- A document that is an array. -/
def IsArray (wire : Wire) (token : List UInt8) : Prop :=
  Bracketed wire.Holds '['.toUInt8 ']'.toUInt8 fieldKeys token

/-- A token with blanks around it. -/
def InBlanks (p : List UInt8 → Prop) (document : List UInt8) : Prop :=
  ∃ before token after, document = before ++ (token ++ after) ∧ IsSpace before ∧ IsSpace after ∧
    p token

/-- A document, which may have blanks around it. -/
def IsDocument (wire : Wire) (document : List UInt8) : Prop :=
  InBlanks (fun token => wire.IsObject token ∨ wire.IsArray token) document

/-! ## Fields -/

theorem reads_readText : Reads readText IsString where
  sound {input x rest} h := by
    unfold readText at h
    split at h
    · cases h
    · next b behind seen =>
      obtain ⟨before, rfl, space, -⟩ := Json.exists_of_skipSpace seen
      split at h
      · next isQuote =>
        obtain ⟨token, spelled, isString⟩ :=
          Json.readString_eq_ok_iff_isString.mp (Except.mapError_eq_ok_iff.mp h)
        exact ⟨before, token, by rw [beq_iff_eq.mp isQuote, spelled], space, isString⟩
      · cases h
  complete {before token x rest} space isString _ := by
    cases isString with
    | @quoted inside spelling =>
        have read := Json.readString_of_spelling spelling rest
        rw [List.cons_append, readText, Json.skipSpace_append_cons space (by decide),
          List.append_assoc, List.singleton_append]
        simp [read]
  begins isString := by
    cases isString with
    | quoted => exact ⟨'"'.toUInt8, _, rfl, by decide, by decide⟩

theorem reads_readSchema : Reads readSchema (IsValue 126) where
  sound h := (Json.reads_readValue 126).sound (Except.mapError_eq_ok_iff.mp h)
  complete space isValue ends :=
    Except.mapError_eq_ok_iff.mpr ((Json.reads_readValue 126).complete space isValue ends)
  begins isValue := (Json.reads_readValue 126).begins isValue

/-- What one member adds to a document: a field that has not been read, or nothing under any other
key. -/
inductive Takes : Partial → String → List UInt8 → Partial → Prop
  | version {known : Partial} {text : String} {token : List UInt8} (new : known.version = none)
      (isString : IsString text token) :
      Takes known "version" token { known with version := some text }
  | policy {known : Partial} {text : String} {token : List UInt8} (new : known.policy = none)
      (isString : IsString text token) :
      Takes known "policy" token { known with policy := some text }
  | policyBranch {known : Partial} {text : String} {token : List UInt8}
      (new : known.policyBranch = none) (isString : IsString text token) :
      Takes known "policy_branch" token { known with policyBranch := some text }
  | schema {known : Partial} {schema : Json} {token : List UInt8} (new : known.schema = none)
      (isValue : IsValue 126 schema token) :
      Takes known "schema" token { known with schema := some schema }
  | other {known : Partial} {key : String} {token : List UInt8} (notField : key ∉ fieldKeys)
      (isLoose : IsLoose token) : Takes known key token known

theorem takes_of_readField (h : readField known key input = .ok (known', rest)) :
    ∃ before after token, input = before ++ ':'.toUInt8 :: (after ++ (token ++ rest)) ∧
      IsSpace before ∧ IsSpace after ∧ Takes known key token known' := by
  unfold readField at h
  split at h
  · cases h
  · next new =>
    obtain ⟨unread, colon, held⟩ := Except.bind_eq_ok_iff.mp h
    clear h
    obtain ⟨before, rfl, space⟩ := Json.readColon_eq_ok_iff.mp (Except.mapError_eq_ok_iff.mp colon)
    suffices found : ∃ after token, unread = after ++ (token ++ rest) ∧ IsSpace after ∧
        Takes known key token known' by
      obtain ⟨after, token, rfl, space', takes⟩ := found
      exact ⟨before, after, token, rfl, space, space', takes⟩
    split at held
    · obtain ⟨⟨text, unread'⟩, read, held⟩ := Except.bind_eq_ok_iff.mp held
      cases held
      obtain ⟨after, token, rfl, space', isString⟩ := reads_readText.sound read
      exact ⟨after, token, rfl, space', .version (by simpa [Partial.has] using new) isString⟩
    · obtain ⟨⟨text, unread'⟩, read, held⟩ := Except.bind_eq_ok_iff.mp held
      cases held
      obtain ⟨after, token, rfl, space', isString⟩ := reads_readText.sound read
      exact ⟨after, token, rfl, space', .policy (by simpa [Partial.has] using new) isString⟩
    · obtain ⟨⟨text, unread'⟩, read, held⟩ := Except.bind_eq_ok_iff.mp held
      cases held
      obtain ⟨after, token, rfl, space', isString⟩ := reads_readText.sound read
      exact ⟨after, token, rfl, space', .policyBranch (by simpa [Partial.has] using new) isString⟩
    · obtain ⟨⟨schema, unread'⟩, read, held⟩ := Except.bind_eq_ok_iff.mp held
      cases held
      obtain ⟨after, token, rfl, space', isValue⟩ := reads_readSchema.sound read
      exact ⟨after, token, rfl, space', .schema (by simpa [Partial.has] using new) isValue⟩
    · next notVersion notPolicy notBranch notSchema =>
      obtain ⟨unread', read, held⟩ := Except.bind_eq_ok_iff.mp held
      cases held
      obtain ⟨after, token, rfl, space', isLoose⟩ :=
        Json.exists_of_skimValue (Except.mapError_eq_ok_iff.mp read)
      have notField : key ∉ fieldKeys :=
        notMem_fieldKeys_iff.mpr ⟨notVersion, notPolicy, notBranch, notSchema⟩
      exact ⟨after, token, rfl, space', .other notField isLoose⟩

theorem readField_of_takes (takes : Takes known key token known') (space : IsSpace before)
    (space' : IsSpace after) (ends : EndsNumber rest) :
    readField known key (before ++ ':'.toUInt8 :: (after ++ (token ++ rest))) =
      .ok (known', rest) := by
  have colon := Json.colon_append space (after ++ (token ++ rest))
  cases takes with
  | version new isString =>
      have read := reads_readText.complete space' isString ends
      simp [readField, Partial.has, new, colon, bind, Except.bind, read, pure, Except.pure]
  | policy new isString =>
      have read := reads_readText.complete space' isString ends
      simp [readField, Partial.has, new, colon, bind, Except.bind, read, pure, Except.pure]
  | policyBranch new isString =>
      have read := reads_readText.complete space' isString ends
      simp [readField, Partial.has, new, colon, bind, Except.bind, read, pure, Except.pure]
  | schema new isValue =>
      have read := reads_readSchema.complete space' isValue ends
      simp [readField, Partial.has, new, colon, bind, Except.bind, read, pure, Except.pure]
  | other notField isLoose =>
      have read := Json.skimValue_of_isLoose space' isLoose ends
      obtain ⟨notVersion, notPolicy, notBranch, notSchema⟩ := notMem_fieldKeys_iff.mp notField
      simp [readField, Partial.has, colon, bind, Except.bind, read, pure, Except.pure]

/-! ## Members -/

/-- What one member after the other adds. -/
inductive TakesAll : Partial → List (String × List UInt8) → Partial → Prop
  | nil (known : Partial) : TakesAll known [] known
  | cons {known known' known'' : Partial} {key : String} {token : List UInt8}
      {members : List (String × List UInt8)} (takes : Takes known key token known')
      (later : TakesAll known' members known'') : TakesAll known ((key, token) :: members) known''

variable {members : List (String × List UInt8)}

theorem takesAll_of_readFields (h : readFields fuel known key input = .ok (known', rest)) :
    ∃ members behind, input = behind ++ '\x7d'.toUInt8 :: rest ∧ BehindKey Eq key members behind ∧
      TakesAll known members known' := by
  induction fuel generalizing known key input with
  | zero => cases h
  | succ fuel ih =>
      rw [readFields] at h
      obtain ⟨⟨next, unread⟩, field, behindField⟩ := Except.bind_eq_ok_iff.mp h
      obtain ⟨⟨more, unread'⟩, goesOn, others⟩ := Except.bind_eq_ok_iff.mp behindField
      clear h behindField
      rw [Except.mapError_eq_ok_iff] at goesOn
      obtain ⟨before, after, token, rfl, space, space', takes⟩ := takes_of_readField field
      cases more with
      | none =>
          cases others
          obtain ⟨tail, rfl, tailSpace⟩ := Json.nextKey_none_iff.mp goesOn
          exact ⟨_, _, by simp, .last space space' rfl tailSpace, .cons takes (.nil _)⟩
      | some next =>
          obtain ⟨comma, name, rfl, isComma, isString⟩ := Json.nextKey_some_iff.mp goesOn
          obtain ⟨members, behind, rfl, isBehind, later⟩ := ih others
          exact ⟨_, _, by simp, .more space space' rfl isComma isString isBehind, .cons takes later⟩

theorem readFields_of_takesAll {behind : List UInt8} (isBehind : BehindKey Eq key members behind)
    (takesAll : TakesAll known members known') (enough : behind.length < fuel)
    (rest : List UInt8) :
    readFields fuel known key (behind ++ '\x7d'.toUInt8 :: rest) = .ok (known', rest) := by
  induction isBehind generalizing fuel known with
  | @last key x before after token tail space space' isToken tailSpace =>
      obtain ⟨fuel, rfl⟩ := Nat.exists_eq_succ_of_ne_zero (Nat.ne_zero_of_lt enough)
      cases isToken
      cases takesAll with | cons takes later =>
      cases later
      have ends : EndsNumber (tail ++ '\x7d'.toUInt8 :: rest) :=
        Json.endsNumber_space_cons tailSpace (by decide) _
      have stop : Json.nextKey (tail ++ '\x7d'.toUInt8 :: rest) = .ok (none, rest) :=
        Json.nextKey_none_iff.mpr ⟨tail, rfl, tailSpace⟩
      simp only [List.append_assoc, List.cons_append]
      exact readFields_last (readField_of_takes takes space space' ends) stop
  | @more key next x members before after token comma name behind space space' isToken isComma
      isString later ih =>
      obtain ⟨fuel, rfl⟩ := Nat.exists_eq_succ_of_ne_zero (Nat.ne_zero_of_lt enough)
      cases isToken
      cases takesAll with | cons takes takesLater =>
      have ends := isComma.endsNumber (name ++ (behind ++ '\x7d'.toUInt8 :: rest))
      have goesOn : Json.nextKey (comma ++ (name ++ (behind ++ '\x7d'.toUInt8 :: rest))) =
          .ok (some next, behind ++ '\x7d'.toUInt8 :: rest) :=
        Json.nextKey_some_iff.mpr ⟨comma, name, rfl, isComma, isString⟩
      have short : behind.length < fuel := by
        simp only [List.length_append, List.length_cons] at enough
        omega
      simp only [List.append_assoc, List.cons_append]
      rw [readFields_next (readField_of_takes takes space space' ends) goesOn]
      exact ih takesLater short

/-! ## Each field once -/

/-- What has been read of a document is what the document holds. -/
structure Partial.Agrees (known : Partial) (wire : Wire) : Prop where
  version : ∀ text, known.version = some text → text = wire.version
  policy : ∀ text, known.policy = some text → text = wire.policy
  policyBranch : ∀ text, known.policyBranch = some text → text = wire.policyBranch
  schema : ∀ schema, known.schema = some schema → schema = wire.schema

theorem complete_eq_ok_iff :
    known.complete = .ok wire ↔
      known.Agrees wire ∧ ∀ field ∈ fieldKeys, known.has field = true := by
  constructor
  · intro h
    unfold Partial.complete at h
    split at h
    any_goals cases h
    next hasVersion hasPolicy hasBranch hasSchema =>
    refine ⟨⟨?_, ?_, ?_, ?_⟩, ?_⟩
    · simp [hasVersion]
    · simp [hasPolicy]
    · simp [hasBranch]
    · simp [hasSchema]
    · simp [fieldKeys, Partial.has, hasVersion, hasPolicy, hasBranch, hasSchema]
  · rintro ⟨⟨version, policy, policyBranch, schema⟩, all⟩
    simp only [fieldKeys, List.forall_mem_cons, Partial.has, Option.isSome_iff_exists] at all
    obtain ⟨⟨_, hasVersion⟩, ⟨_, hasPolicy⟩, ⟨_, hasBranch⟩, ⟨_, hasSchema⟩, -⟩ := all
    cases version _ hasVersion
    cases policy _ hasPolicy
    cases policyBranch _ hasBranch
    cases schema _ hasSchema
    simp [Partial.complete, hasVersion, hasPolicy, hasBranch, hasSchema]

/-- How often a document as far as it has been read holds a field: once or not at all. -/
def Partial.times (known : Partial) (field : String) : Nat :=
  if known.has field then 1 else 0

theorem Takes.holds (takes : Takes known key token known') (agrees : known'.Agrees wire) :
    wire.Holds key token ∧ known.Agrees wire := by
  cases takes with
  | version new isString =>
      cases agrees.version _ rfl
      exact ⟨isString, by simp [new], agrees.policy, agrees.policyBranch, agrees.schema⟩
  | policy new isString =>
      cases agrees.policy _ rfl
      exact ⟨isString, agrees.version, by simp [new], agrees.policyBranch, agrees.schema⟩
  | policyBranch new isString =>
      cases agrees.policyBranch _ rfl
      exact ⟨isString, agrees.version, agrees.policy, by simp [new], agrees.schema⟩
  | schema new isValue =>
      cases agrees.schema _ rfl
      exact ⟨isValue, agrees.version, agrees.policy, agrees.policyBranch, by simp [new]⟩
  | other notField isLoose =>
      obtain ⟨notVersion, notPolicy, notBranch, notSchema⟩ := notMem_fieldKeys_iff.mp notField
      exact ⟨by simpa [Holds] using isLoose, agrees⟩

theorem Takes.times (takes : Takes known key token known') {field : String}
    (isField : field ∈ fieldKeys) :
    known'.times field = known.times field + if key = field then 1 else 0 := by
  simp only [fieldKeys, List.mem_cons, List.not_mem_nil, or_false] at isField
  rcases isField with rfl | rfl | rfl | rfl
  all_goals
    cases takes with
    | version new | policy new | policyBranch new | schema new =>
        simp [Partial.times, Partial.has, new]
    | other notField =>
        obtain ⟨notVersion, notPolicy, notBranch, notSchema⟩ := notMem_fieldKeys_iff.mp notField
        simp [*]

theorem exists_takes (agrees : known.Agrees wire) (holds : wire.Holds key token)
    (new : key ∈ fieldKeys → known.has key = false) :
    ∃ known', Takes known key token known' ∧ known'.Agrees wire := by
  by_cases isField : key ∈ fieldKeys
  · have new := new isField
    simp only [fieldKeys, List.mem_cons, List.not_mem_nil, or_false] at isField
    rcases isField with rfl | rfl | rfl | rfl
    · exact ⟨_, .version (by simpa [Partial.has] using new) holds,
        by simp, agrees.policy, agrees.policyBranch, agrees.schema⟩
    · exact ⟨_, .policy (by simpa [Partial.has] using new) holds,
        agrees.version, by simp, agrees.policyBranch, agrees.schema⟩
    · exact ⟨_, .policyBranch (by simpa [Partial.has] using new) holds,
        agrees.version, agrees.policy, by simp, agrees.schema⟩
    · exact ⟨_, .schema (by simpa [Partial.has] using new) holds,
        agrees.version, agrees.policy, agrees.policyBranch, by simp⟩
  · obtain ⟨notVersion, notPolicy, notBranch, notSchema⟩ := notMem_fieldKeys_iff.mp isField
    have isLoose : IsLoose token := by simpa [Holds] using holds
    exact ⟨known, .other isField isLoose, agrees⟩

theorem TakesAll.hold (takesAll : TakesAll known members known') (agrees : known'.Agrees wire) :
    (∀ member ∈ members, wire.Holds member.1 member.2) ∧ known.Agrees wire := by
  induction takesAll with
  | nil known => exact ⟨nofun, agrees⟩
  | cons takes _ ih =>
      obtain ⟨hold, agrees⟩ := ih agrees
      obtain ⟨holds, agrees⟩ := takes.holds agrees
      exact ⟨List.forall_mem_cons.mpr ⟨holds, hold⟩, agrees⟩

theorem TakesAll.times (takesAll : TakesAll known members known') {field : String}
    (isField : field ∈ fieldKeys) :
    known'.times field = known.times field + (members.map Prod.fst).count field := by
  induction takesAll with
  | nil known => rfl
  | @cons _ _ _ key _ members takes _ ih =>
      rw [ih, takes.times isField, List.map_cons, List.count_cons]
      simp only [beq_iff_eq]
      omega

theorem exists_takesAll (agrees : known.Agrees wire)
    (hold : ∀ member ∈ members, wire.Holds member.1 member.2)
    (few : ∀ field ∈ fieldKeys, known.times field + (members.map Prod.fst).count field ≤ 1) :
    ∃ known', TakesAll known members known' ∧ known'.Agrees wire := by
  induction members generalizing known with
  | nil => exact ⟨known, .nil known, agrees⟩
  | cons member members ih =>
      obtain ⟨key, token⟩ := member
      have holds : wire.Holds key token := hold _ List.mem_cons_self
      have hold := (List.forall_mem_cons.mp hold).2
      have new : key ∈ fieldKeys → known.has key = false := by
        intro isField
        have few := few key isField
        rw [List.map_cons, List.count_cons_self] at few
        rw [← Bool.not_eq_true]
        intro has
        rw [Partial.times, if_pos has] at few
        omega
      obtain ⟨known', takes, agrees'⟩ := exists_takes agrees holds new
      have fewer : ∀ field ∈ fieldKeys,
          known'.times field + (members.map Prod.fst).count field ≤ 1 := by
        intro field isField
        have few := few field isField
        simp only [List.map_cons, List.count_cons, beq_iff_eq] at few
        rw [takes.times isField]
        omega
      obtain ⟨known'', later, agrees''⟩ := ih agrees' hold fewer
      exact ⟨known'', .cons takes later, agrees''⟩

/-- Members that are taken one after the other make a document if each field is there once. -/
theorem areMembers_iff :
    wire.AreMembers members ↔
      ∃ known, TakesAll .unread members known ∧ known.complete = .ok wire := by
  have nothing : ∀ field ∈ fieldKeys, Partial.unread.times field = 0 := by decide
  have once {known : Partial} (takesAll : TakesAll .unread members known) {field : String}
      (isField : field ∈ fieldKeys) :
      known.has field = true ↔ (members.map Prod.fst).count field = 1 := by
    have times := takesAll.times isField
    rw [nothing field isField, Nat.zero_add] at times
    rw [← times, Partial.times]
    simp
  constructor
  · rintro ⟨hold, isOnce⟩
    have agrees : Partial.unread.Agrees wire := ⟨nofun, nofun, nofun, nofun⟩
    have few : ∀ field ∈ fieldKeys,
        Partial.unread.times field + (members.map Prod.fst).count field ≤ 1 := by
      intro field isField
      rw [nothing field isField, isOnce field isField]
    obtain ⟨known, takesAll, agrees⟩ := exists_takesAll agrees hold few
    exact ⟨known, takesAll, complete_eq_ok_iff.mpr
      ⟨agrees, fun field isField => (once takesAll isField).mpr (isOnce field isField)⟩⟩
  · rintro ⟨known, takesAll, complete⟩
    obtain ⟨agrees, all⟩ := complete_eq_ok_iff.mp complete
    exact ⟨(takesAll.hold agrees).1,
      fun field isField => (once takesAll isField).mp (all field isField)⟩

/-! ## Objects -/

theorem isObject_of_readObject (h : readObject input = .ok (wire, rest)) :
    ∃ token, '\x7b'.toUInt8 :: input = token ++ rest ∧ wire.IsObject token := by
  obtain ⟨⟨first, behind⟩, key, fields⟩ := Except.bind_eq_ok_iff.mp h
  clear h
  rw [Except.mapError_eq_ok_iff] at key
  cases first with
  | none => cases fields
  | some first =>
      obtain ⟨⟨known, unread⟩, read, complete⟩ := Except.bind_eq_ok_iff.mp fields
      clear fields
      dsimp only at complete
      split at complete
      · next wire' isComplete =>
        cases complete
        obtain ⟨before, name, rfl, space, isString⟩ := Json.firstKey_some_iff.mp key
        obtain ⟨members, inside, rfl, isBehind, takesAll⟩ := takesAll_of_readFields read
        have areMembers := areMembers_iff.mpr ⟨known, takesAll, isComplete⟩
        exact ⟨_, by simp, .members (.elements (isBehind.elements isString space)) areMembers⟩
      · cases complete

theorem readObject_of_isObject (isObject : wire.IsObject token) :
    ∃ more, token = '\x7b'.toUInt8 :: more ∧
      ∀ rest, readObject (more ++ rest) = .ok (wire, rest) := by
  obtain ⟨bracketed, areMembers⟩ := isObject
  cases bracketed with
  | empty => exact absurd (areMembers.once "version" List.mem_cons_self) (by decide)
  | elements elements =>
      refine ⟨_, rfl, fun rest => ?_⟩
      obtain ⟨key, before, name, behind, rfl, space, isString, isBehind⟩ :=
        Json.exists_behindKey_of_elements elements
      obtain ⟨known, takesAll, complete⟩ := areMembers_iff.mp areMembers
      have first : Json.firstKey (before ++ (name ++ (behind ++ '\x7d'.toUInt8 :: rest))) =
          .ok (some key, behind ++ '\x7d'.toUInt8 :: rest) :=
        Json.firstKey_some_iff.mpr ⟨before, name, rfl, space, isString⟩
      have enough : behind.length < (behind ++ '\x7d'.toUInt8 :: rest).length := by simp
      have read := readFields_of_takesAll isBehind takesAll enough rest
      simp only [List.append_assoc, List.singleton_append]
      exact readObject_of_readFields first read complete

/-! ## Arrays -/

theorem goOn_eq_ok_iff {length : Nat} {more : Except (Json.Fault Json.Cause) (Bool × List UInt8)} :
    goOn length more = .ok rest ↔ more = .ok (true, rest) := by
  constructor
  · intro h
    obtain ⟨⟨isMore, unread⟩, read, h⟩ := Except.bind_eq_ok_iff.mp h
    rw [Except.mapError_eq_ok_iff] at read
    cases isMore with
    | true =>
        cases h
        exact read
    | false => cases h
  · rintro rfl
    rfl

theorem closeArray_eq_ok_iff :
    closeArray input = .ok rest ↔
      ∃ before, input = before ++ ']'.toUInt8 :: rest ∧ IsSpace before := by
  constructor
  · intro h
    unfold closeArray at h
    split at h
    · cases h
    · next b behind seen =>
      split at h
      · next isEnd =>
        cases h
        obtain ⟨before, rfl, space, -⟩ := Json.exists_of_skipSpace seen
        exact ⟨before, by rw [beq_iff_eq.mp isEnd], space⟩
      · split at h
        · split at h
          · cases h
          · split at h <;> cases h
        · cases h
  · rintro ⟨before, rfl, space⟩
    rw [closeArray, Json.skipSpace_append_cons space (by decide)]
    rfl

theorem begins_of_holds (holds : wire.Holds key token) : Begins token := by
  unfold Holds at holds
  split at holds
  · exact reads_readText.begins holds
  · exact reads_readText.begins holds
  · exact reads_readText.begins holds
  · exact reads_readSchema.begins holds
  · exact Json.begins_of_isLoose holds

theorem isArray_of_readArray (h : readArray input = .ok (wire, rest)) :
    ∃ token, '['.toUInt8 :: input = token ++ rest ∧ wire.IsArray token := by
  obtain ⟨front₁, go₁, h₁⟩ := Except.bind_eq_ok_iff.mp h
  obtain ⟨⟨version, behind₁⟩, read₁, h₂⟩ := Except.bind_eq_ok_iff.mp h₁
  obtain ⟨front₂, go₂, h₃⟩ := Except.bind_eq_ok_iff.mp h₂
  obtain ⟨⟨policy, behind₂⟩, read₂, h₄⟩ := Except.bind_eq_ok_iff.mp h₃
  obtain ⟨front₃, go₃, h₅⟩ := Except.bind_eq_ok_iff.mp h₄
  obtain ⟨⟨policyBranch, behind₃⟩, read₃, h₆⟩ := Except.bind_eq_ok_iff.mp h₅
  obtain ⟨front₄, go₄, h₇⟩ := Except.bind_eq_ok_iff.mp h₆
  obtain ⟨⟨schema, behind₄⟩, read₄, h₈⟩ := Except.bind_eq_ok_iff.mp h₇
  obtain ⟨unread, close, done⟩ := Except.bind_eq_ok_iff.mp h₈
  clear h h₁ h₂ h₃ h₄ h₅ h₆ h₇ h₈
  cases done
  obtain ⟨tail, rfl, tailSpace⟩ := closeArray_eq_ok_iff.mp close
  obtain ⟨blank₄, schemaToken, rfl, space₄, isSchema⟩ := reads_readSchema.sound read₄
  obtain ⟨comma₃, rfl, isComma₃, -⟩ := Json.nextItem_true_iff.mp (goOn_eq_ok_iff.mp go₄)
  obtain ⟨blank₃, branchToken, rfl, space₃, isBranch⟩ := reads_readText.sound read₃
  obtain ⟨comma₂, rfl, isComma₂, -⟩ := Json.nextItem_true_iff.mp (goOn_eq_ok_iff.mp go₃)
  obtain ⟨blank₂, policyToken, rfl, space₂, isPolicy⟩ := reads_readText.sound read₂
  obtain ⟨comma₁, rfl, isComma₁, -⟩ := Json.nextItem_true_iff.mp (goOn_eq_ok_iff.mp go₂)
  obtain ⟨blank₁, versionToken, rfl, space₁, isVersion⟩ := reads_readText.sound read₁
  obtain ⟨blank₀, rfl, space₀, -⟩ := Json.firstItem_true_iff.mp (goOn_eq_ok_iff.mp go₁)
  let wire : Wire := ⟨version, policy, policyBranch, schema⟩
  have fourth : Elements wire.Holds ["schema"] _ := .last space₄ isSchema tailSpace
  have third : Elements wire.Holds ["policy_branch", "schema"] _ :=
    .cons_comma space₃ isBranch isComma₃ fourth
  have second : Elements wire.Holds ["policy", "policy_branch", "schema"] _ :=
    .cons_comma space₂ isPolicy isComma₂ third
  have first : Elements wire.Holds fieldKeys _ := .cons_comma space₁ isVersion isComma₁ second
  exact ⟨_, by simp, .elements (first.space_append space₀)⟩

theorem readArray_of_isArray (isArray : wire.IsArray token) :
    ∃ more, token = '['.toUInt8 :: more ∧
      ∀ rest, readArray (more ++ rest) = .ok (wire, rest) := by
  cases isArray with
  | elements elements =>
      refine ⟨_, rfl, fun rest => ?_⟩
      obtain ⟨inside, elements, -, first⟩ := elements.exists_firstItem begins_of_holds
      obtain ⟨blank₁, version, inside₁, space₁, isVersion, elements, next₁⟩ :=
        elements.exists_item begins_of_holds
      obtain ⟨blank₂, policy, inside₂, space₂, isPolicy, elements, next₂⟩ :=
        elements.exists_item begins_of_holds
      obtain ⟨blank₃, branch, inside₃, space₃, isBranch, elements, next₃⟩ :=
        elements.exists_item begins_of_holds
      cases elements with
      | @last _ blank₄ schema tail space₄ isSchema tailSpace =>
          have close : closeArray (tail ++ ']'.toUInt8 :: rest) = .ok rest :=
            closeArray_eq_ok_iff.mpr ⟨tail, rfl, tailSpace⟩
          have ends₄ : EndsNumber (tail ++ ']'.toUInt8 :: rest) :=
            Json.endsNumber_space_cons tailSpace (by decide) _
          have read₄ := reads_readSchema.complete space₄ isSchema ends₄
          obtain ⟨unread₃, spelled₃, ends₃, next₃⟩ := next₃ (']'.toUInt8 :: rest)
          obtain ⟨unread₂, spelled₂, ends₂, next₂⟩ := next₂ (']'.toUInt8 :: rest)
          obtain ⟨unread₁, spelled₁, ends₁, next₁⟩ := next₁ (']'.toUInt8 :: rest)
          have read₃ := reads_readText.complete space₃ isBranch ends₃
          have read₂ := reads_readText.complete space₂ isPolicy ends₂
          have read₁ := reads_readText.complete space₁ isVersion ends₁
          rw [← spelled₃] at read₃
          rw [← spelled₂] at read₂
          rw [← spelled₁] at read₁
          rw [List.append_assoc, List.singleton_append, readArray, goOn_eq_ok_iff.mpr (first _)]
          simp only [bind, Except.bind, read₁, goOn_eq_ok_iff.mpr next₁, read₂,
            goOn_eq_ok_iff.mpr next₂, read₃, goOn_eq_ok_iff.mpr next₃, List.append_assoc, read₄,
            close]
          rfl
      | more _ _ _ later => cases later

/-! ## The whole document -/

/-- A document is read up to its last bracket, and behind it there are only blanks. -/
theorem closed_eq_ok_iff {read : Except (Json.Fault Cause) (Wire × List UInt8)} :
    (do
      let (wire, rest) ← read
      (Json.readEnd rest).mapError malformed
      return wire) = Except.ok wire ↔ ∃ after, read = .ok (wire, after) ∧ IsSpace after := by
  constructor
  · intro h
    obtain ⟨⟨wire', after⟩, read, closed⟩ := Except.bind_eq_ok_iff.mp h
    obtain ⟨_, ended, done⟩ := Except.bind_eq_ok_iff.mp closed
    cases done
    exact ⟨after, read, Json.readEnd_eq_ok_iff.mp (Except.mapError_eq_ok_iff.mp ended)⟩
  · rintro ⟨after, rfl, space⟩
    simp [bind, Except.bind, Json.readEnd_eq_ok_iff.mpr space, pure, Except.pure]

theorem readDocument_bracket (rest : List UInt8) :
    readDocument ('['.toUInt8 :: rest) = (do
      let (wire, rest) ← readArray rest
      (Json.readEnd rest).mapError malformed
      return wire) := rfl

theorem readDocument_append (space : IsSpace before) (input : List UInt8) :
    readDocument (before ++ input) = readDocument input := by
  rw [readDocument, Json.skipSpace_append space, readDocument]

theorem isDocument_of_readDocument (h : readDocument input = .ok wire) :
    wire.IsDocument input := by
  rw [readDocument] at h
  split at h
  · cases h
  · next b behind seen =>
    obtain ⟨before, rfl, space, -⟩ := Json.exists_of_skipSpace seen
    split at h
    · next isBracket =>
      obtain ⟨after, read, space'⟩ := closed_eq_ok_iff.mp h
      obtain ⟨token, spelled, isArray⟩ := isArray_of_readArray read
      exact ⟨before, token, after, by rw [beq_iff_eq.mp isBracket, spelled], space, space',
        Or.inr isArray⟩
    split at h
    · next isBrace =>
      obtain ⟨after, read, space'⟩ := closed_eq_ok_iff.mp h
      obtain ⟨token, spelled, isObject⟩ := isObject_of_readObject read
      exact ⟨before, token, after, by rw [beq_iff_eq.mp isBrace, spelled], space, space',
        Or.inl isObject⟩
    · cases h

/-- The documents of the grammar are read, and nothing else is. -/
theorem readDocument_eq_ok_iff : readDocument input = .ok wire ↔ wire.IsDocument input := by
  constructor
  · exact isDocument_of_readDocument
  · rintro ⟨before, token, after, rfl, space, space', isObject | isArray⟩
    · obtain ⟨more, rfl, read⟩ := readObject_of_isObject isObject
      rw [readDocument_append space, List.cons_append, readDocument_brace, closed_eq_ok_iff]
      exact ⟨after, read after, space'⟩
    · obtain ⟨more, rfl, read⟩ := readArray_of_isArray isArray
      rw [readDocument_append space, List.cons_append, readDocument_bracket, closed_eq_ok_iff]
      exact ⟨after, read after, space'⟩

theorem read_eq_ok_iff : Wire.read input = .ok wire ↔ wire.IsDocument input := by
  rw [Wire.read, Except.mapError_eq_ok_iff, readDocument_eq_ok_iff]

/-! ## Schemas of documents -/

/-- A schema that can stand in a document that was read. -/
def IsReadable (schema : Json) : Prop :=
  schema.WellFormed ∧ schema.depth ≤ 126

theorem IsObject.exists_schema (isObject : wire.IsObject token) :
    ∃ token, wire.Holds "schema" token := by
  obtain ⟨-, areMembers⟩ := isObject
  have once := areMembers.once "schema" (by decide)
  have isKey : "schema" ∈ _ := List.count_pos_iff.mp (once ▸ Nat.one_pos)
  obtain ⟨⟨key, held⟩, isMember, rfl⟩ := List.mem_map.mp isKey
  exact ⟨held, areMembers.hold _ isMember⟩

theorem IsArray.exists_schema (isArray : wire.IsArray token) :
    ∃ token, wire.Holds "schema" token := by
  exact Bracketed.exists_token isArray (by decide)

theorem exists_isValue_of_read (h : Wire.read input = .ok wire) :
    ∃ held, Json.IsValue 126 wire.schema held := by
  obtain ⟨_, token, _, -, -, -, isToken⟩ := read_eq_ok_iff.mp h
  exact isToken.elim IsObject.exists_schema IsArray.exists_schema

end FactoryBundler.Wire
