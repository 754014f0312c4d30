import Mathlib
import StructSync.CType.Resolve

/-!
# What a declaration takes from its scope

A declaration looks up one name at most (`TypeScope.lookedUp?`). If it has no star it embeds the
struct of that name (`Declaration.embedded?`) and needs its size; behind a star it is enough that
the name is known, if no keyword stands before it (`Declaration.pointed?`). Main statements: a
declaration that stands for a type has its embedded struct in the scope
(`parseDeclaration_embeds`), and still stands for that type in any scope with pointers of the same
size that has this struct in the same size and knows the other name (`parseDeclaration_takes`).
-/

namespace StructSync

theorem bind_eq_ok {ε α β : Type} {x : Except ε α} {f : α → Except ε β} {b : β} :
    x >>= f = .ok b ↔ ∃ a, x = .ok a ∧ f a = .ok b := by
  cases x <;> simp [bind, Except.bind]

namespace TypeScope

/-- The name that words without a keyword stand for. -/
def plainName (words : List String) : String :=
  ((IntegerType.ofWords? words).map IntegerType.name).getD (" ".intercalate words)

/-- The name that is looked up among the structs for these base words. -/
def lookedUp? : List String → Option String
  | [] => none
  | first :: rest =>
    if aggregateKeywords.contains first then
      match rest with
      | [name] => some name
      | _ => none
    else if first == "enum" then none
    else
      match builtin? (plainName (first :: rest)), rest with
      | none, [] => some first
      | _, _ => none

/-- The name that is looked up for these base words although no keyword says that it is a
struct's. -/
def bare? : List String → Option String
  | [] => none
  | first :: rest =>
    if aggregateKeywords.contains first || first == "enum" then none
    else
      match builtin? (plainName (first :: rest)), rest with
      | none, [] => some first
      | _, _ => none

/-- The other scope has pointers of the same size and knows no fewer structs. -/
structure Within (scope other : TypeScope) : Prop where
  pointerSize : other.pointerSize = scope.pointerSize
  known : ∀ {name}, (scope.structSize? name).isSome → (other.structSize? name).isSome

variable {scope other : TypeScope} {words : List String}

theorem plain_eq (words : List String) (behindPointer : Bool) :
    scope.plain words behindPointer =
      match builtin? (plainName words) with
      | some scalar =>
        if scalar.size scope.pointerSize = 0 && !behindPointer then
          .error (.unsized (plainName words))
        else .ok ⟨scalar.size scope.pointerSize, plainName words, scalar.kind⟩
      | none =>
        match words with
        | [word] =>
          match scope.structSize? word with
          | some size => .ok ⟨size, plainName words, .aggregate⟩
          | none => .error (.unknownType (plainName words))
        | _ => .error (.unknownType (plainName words)) := rfl

/-- How the type of base words depends on the scope: on its pointers only, or on the one name that
stands behind a keyword, or on the one name that stands alone. -/
inductive Uses (words : List String) : Prop
  | none (hlooked : lookedUp? words = .none) (hbare : bare? words = .none)
    (hbase : ∀ {scope other : TypeScope}, other.pointerSize = scope.pointerSize →
      ∀ behindPointer, other.base words behindPointer = scope.base words behindPointer)
  | behindKeyword (keyword name : String) (hlooked : lookedUp? words = some name)
    (hbare : bare? words = .none)
    (hbase : ∀ (scope : TypeScope) behindPointer,
      scope.base words behindPointer = scope.aggregate keyword name behindPointer)
  | alone (name : String) (hlooked : lookedUp? words = some name) (hbare : bare? words = some name)
    (hbase : ∀ (scope : TypeScope) behindPointer, scope.base words behindPointer =
      match scope.structSize? name with
      | some size => .ok ⟨size, plainName words, .aggregate⟩
      | .none => .error (.unknownType (plainName words)))

theorem uses (words : List String) : Uses words := by
  cases words with
  | nil => exact .none rfl rfl fun _ _ => rfl
  | cons first rest =>
    by_cases hkeyword : aggregateKeywords.contains first = true
    · have hbare : bare? (first :: rest) = .none := if_pos (by rw [hkeyword]; rfl)
      rcases rest with _ | ⟨name, _ | ⟨_, _⟩⟩
      · exact .none (if_pos hkeyword) hbare fun _ _ => (if_pos hkeyword).trans (if_pos hkeyword).symm
      · exact .behindKeyword first name (if_pos hkeyword) hbare fun _ _ => if_pos hkeyword
      · exact .none (if_pos hkeyword) hbare fun _ _ => (if_pos hkeyword).trans (if_pos hkeyword).symm
    · by_cases henum : (first == "enum") = true
      · have hbare : bare? (first :: rest) = .none := if_pos (by rw [henum, Bool.or_true])
        refine .none ((if_neg hkeyword).trans (if_pos henum)) hbare fun _ _ => ?_
        unfold base
        simp only [if_neg hkeyword, if_pos henum]
      · have hbase (scope : TypeScope) (behindPointer : Bool) :
            scope.base (first :: rest) behindPointer =
              scope.plain (first :: rest) behindPointer :=
          (if_neg hkeyword).trans (if_neg henum)
        have hneither : ¬(aggregateKeywords.contains first || first == "enum") = true := by
          rw [Bool.or_eq_true]
          exact not_or.2 ⟨hkeyword, henum⟩
        have hbare : bare? (first :: rest) = lookedUp? (first :: rest) :=
          (if_neg hneither).trans ((if_neg hkeyword).trans (if_neg henum)).symm
        cases hbuiltin : builtin? (plainName (first :: rest)) with
        | some scalar =>
          have hlooked : lookedUp? (first :: rest) = .none :=
            (if_neg hkeyword).trans ((if_neg henum).trans (by rw [hbuiltin]))
          refine .none hlooked (hbare.trans hlooked) fun hpointer _ => ?_
          rw [hbase, hbase, plain_eq, plain_eq, hbuiltin, hpointer]
        | none =>
          rcases rest with _ | ⟨second, others⟩
          · have hlooked : lookedUp? [first] = some first :=
              (if_neg hkeyword).trans ((if_neg henum).trans (by rw [hbuiltin]))
            refine .alone first hlooked (hbare.trans hlooked) fun scope _ => ?_
            rw [hbase, plain_eq, hbuiltin]
          · have hlooked : lookedUp? (first :: second :: others) = .none :=
              (if_neg hkeyword).trans ((if_neg henum).trans (by rw [hbuiltin]))
            refine .none hlooked (hbare.trans hlooked) fun hpointer _ => ?_
            rw [hbase, hbase, plain_eq, plain_eq, hbuiltin]

theorem base_agrees (hpointer : other.pointerSize = scope.pointerSize)
    (hname : ∀ name, lookedUp? words = some name → other.structSize? name = scope.structSize? name)
    (behindPointer : Bool) : other.base words behindPointer = scope.base words behindPointer := by
  cases uses words with
  | none hlooked hbare hbase => exact hbase hpointer behindPointer
  | behindKeyword keyword name hlooked hbare hbase =>
    rw [hbase, hbase, aggregate, aggregate, hname name hlooked]
  | alone name hlooked hbare hbase => rw [hbase, hbase, hname name hlooked]

/-- Behind a pointer the base words still stand for a type of the same name if the name that no
keyword stands before is still known. -/
theorem base_known (hpointer : other.pointerSize = scope.pointerSize)
    (hknown : ∀ name, bare? words = some name → (scope.structSize? name).isSome →
      (other.structSize? name).isSome) {type : CType} (hbase : scope.base words true = .ok type) :
    ∃ type', other.base words true = .ok type' ∧ type'.name = type.name := by
  cases uses words with
  | none hlooked hbare huses => exact ⟨type, (huses hpointer true).trans hbase, rfl⟩
  | behindKeyword keyword name hlooked hbare huses =>
    rw [huses] at hbase ⊢
    unfold aggregate at hbase ⊢
    dsimp only at hbase ⊢
    cases hs : scope.structSize? name <;> rw [hs] at hbase <;> cases hbase <;>
      cases other.structSize? name <;> exact ⟨_, rfl, rfl⟩
  | alone name hlooked hbare huses =>
    rw [huses] at hbase ⊢
    cases hs : scope.structSize? name with
    | none =>
      rw [hs] at hbase
      cases hbase
    | some size =>
      obtain ⟨size', hs'⟩ := Option.isSome_iff_exists.1 (hknown name hbare (by rw [hs]; rfl))
      rw [hs] at hbase
      cases hbase
      rw [hs']
      exact ⟨_, rfl, rfl⟩

theorem base_needs {name : String} {type : CType} (hname : lookedUp? words = some name)
    (hbase : scope.base words false = .ok type) : (scope.structSize? name).isSome := by
  cases hs : scope.structSize? name with
  | some size => rfl
  | none =>
    cases uses words with
    | none hlooked => exact nomatch hlooked.symm.trans hname
    | behindKeyword keyword found hlooked hbare huses =>
      obtain rfl := Option.some.inj (hlooked.symm.trans hname)
      rw [huses, aggregate, hs] at hbase
      cases hbase
    | alone found hlooked hbare huses =>
      obtain rfl := Option.some.inj (hlooked.symm.trans hname)
      rw [huses, hs] at hbase
      cases hbase

end TypeScope

namespace Declaration

/-- The struct that stands inside what is declared, if one does. -/
def embedded? (decl : Declaration) : Option String :=
  if decl.stars > 0 then none else TypeScope.lookedUp? (decl.words.filter (!isQualifier ·))

/-- The struct that must have a name for what is declared to point to it, if there is one. -/
def pointed? (decl : Declaration) : Option String :=
  if decl.stars > 0 then TypeScope.bare? (decl.words.filter (!isQualifier ·)) else none

/-- The declaration of a text. -/
def ofText? (text : String) : Option Declaration :=
  match body text.toList with
  | [] => none
  | body => (scan body).bind ofTokens?

theorem ofText?_eq (text : String) : ofText? text = (scan (body text.toList)).bind ofTokens? := by
  unfold ofText?
  split
  · next hnil =>
    rw [hnil, scan_nil]
    rfl
  · rfl

theorem resolve_eq_ok {scope : TypeScope} {decl : Declaration} {type : CType} :
    decl.resolve scope = .ok type ↔ ∃ b counts,
      scope.base (decl.words.filter (!isQualifier ·)) (decl.stars > 0) = .ok b ∧
      decl.dimensions.mapM dimensionCount = .ok counts ∧
      (scope.pointerTo b decl.stars).arrayOf counts = .ok type ∧ type.size ≠ 0 := by
  have hsized {found : CType} :
      (if found.size = 0 then Except.error DeclarationError.noSize else .ok found) = .ok type ↔
        found = type ∧ type.size ≠ 0 := by
    by_cases hsize : found.size = 0
    · rw [if_pos hsize]
      exact ⟨nofun, fun ⟨h, hne⟩ => absurd (h ▸ hsize) hne⟩
    · rw [if_neg hsize, Except.ok.injEq]
      exact ⟨fun h => ⟨h, h ▸ hsize⟩, And.left⟩
  unfold resolve
  simp only [bind_eq_ok, hsized]
  grind

/-- What the declaration takes from the scope is in the other scope. -/
structure Takes (decl : Declaration) (scope other : TypeScope) : Prop where
  pointerSize : other.pointerSize = scope.pointerSize
  embedded : ∀ name, decl.embedded? = some name → other.structSize? name = scope.structSize? name
  pointed : ∀ name, decl.pointed? = some name → (scope.structSize? name).isSome →
    (other.structSize? name).isSome

theorem resolve_takes {scope other : TypeScope} {decl : Declaration} {type : CType}
    (h : decl.Takes scope other) (hresolve : decl.resolve scope = .ok type) :
    decl.resolve other = .ok type := by
  obtain ⟨b, counts, hb, hcounts, harray, hsize⟩ := resolve_eq_ok.1 hresolve
  obtain ⟨hpointer, hembedded, hpointed⟩ := h
  -- what the stars make of the base is the same
  suffices hbase :
      ∃ b', other.base (decl.words.filter (!isQualifier ·)) (decl.stars > 0) = .ok b' ∧
        other.pointerTo b' decl.stars = scope.pointerTo b decl.stars by
    obtain ⟨b', hb', hsame⟩ := hbase
    exact resolve_eq_ok.2 ⟨b', counts, hb', hcounts, hsame ▸ harray, hsize⟩
  by_cases hstars : decl.stars > 0
  · simp only [hstars, decide_true] at hb ⊢
    rw [pointed?, if_pos hstars] at hpointed
    obtain ⟨b', hb', hbname⟩ := TypeScope.base_known hpointer hpointed hb
    refine ⟨b', hb', ?_⟩
    obtain ⟨stars, hsucc⟩ := Nat.exists_eq_succ_of_ne_zero (Nat.pos_iff_ne_zero.1 hstars)
    rw [hsucc, TypeScope.pointerTo, TypeScope.pointerTo, hbname, hpointer]
  · simp only [hstars, decide_false] at hb ⊢
    rw [embedded?, if_neg hstars] at hembedded
    refine ⟨b, (TypeScope.base_agrees hpointer hembedded false).trans hb, ?_⟩
    rw [Nat.eq_zero_of_not_pos hstars]
    rfl

theorem resolve_embeds {scope : TypeScope} {decl : Declaration} {type : CType} {name : String}
    (hname : decl.embedded? = some name) (hresolve : decl.resolve scope = .ok type) :
    (scope.structSize? name).isSome := by
  obtain ⟨b, counts, hb, -⟩ := resolve_eq_ok.1 hresolve
  unfold embedded? at hname
  by_cases hstars : decl.stars > 0
  · rw [if_pos hstars] at hname
    cases hname
  · rw [if_neg hstars] at hname
    simp only [hstars, decide_false] at hb
    exact TypeScope.base_needs hname hb

end Declaration

theorem parseDeclaration_eq_ok {scope : TypeScope} {text : String} {type : CType} :
    parseDeclaration scope text = .ok type ↔
      ∃ decl, Declaration.ofText? text = some decl ∧ decl.resolve scope = .ok type := by
  unfold parseDeclaration Declaration.ofText?
  cases hbody : Declaration.body text.toList with
  | nil => simp
  | cons c cs =>
    dsimp only
    cases (scan (c :: cs)).bind Declaration.ofTokens? <;> simp

/-- A text that declares a type declares it in any scope that has what it takes from its own. -/
theorem parseDeclaration_takes {scope other : TypeScope} {text : String} {type : CType}
    (h : ∀ decl, Declaration.ofText? text = some decl → decl.Takes scope other)
    (hparse : parseDeclaration scope text = .ok type) : parseDeclaration other text = .ok type := by
  obtain ⟨decl, hdecl, hresolve⟩ := parseDeclaration_eq_ok.1 hparse
  exact parseDeclaration_eq_ok.2 ⟨decl, hdecl, decl.resolve_takes (h decl hdecl) hresolve⟩

/-- A text that declares a type declares it in any scope that knows no fewer names and has the
embedded struct in the same size. -/
theorem parseDeclaration_agrees {scope other : TypeScope} {text : String} {type : CType}
    (h : scope.Within other)
    (hname : ∀ name, (Declaration.ofText? text).bind Declaration.embedded? = some name →
      other.structSize? name = scope.structSize? name)
    (hparse : parseDeclaration scope text = .ok type) : parseDeclaration other text = .ok type := by
  refine parseDeclaration_takes (fun decl hdecl => ⟨h.pointerSize, fun name hembedded => ?_,
    fun _ _ => h.known⟩) hparse
  rw [hdecl] at hname
  exact hname name hembedded

/-- The struct that a text embeds is known where the text declares a type. -/
theorem parseDeclaration_embeds {scope : TypeScope} {text name : String} {type : CType}
    (hname : (Declaration.ofText? text).bind Declaration.embedded? = some name)
    (hparse : parseDeclaration scope text = .ok type) : (scope.structSize? name).isSome := by
  obtain ⟨decl, hdecl, hresolve⟩ := parseDeclaration_eq_ok.1 hparse
  rw [hdecl] at hname
  exact decl.resolve_embeds hname hresolve

end StructSync
