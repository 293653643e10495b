import ChipLink.Proofs.Text.Numerals
import ChipLink.Register.Table

/-!
# The grammar of register paths

A path is a key with at most an index in brackets behind it. The paths of a register are those
with its key and, if it comes in an array, with a numeral of its place in the array; they lead to
the register along either table. Every other path is refused, and the refusal says whether the key
is unknown or something about the index is wrong. No two registers share a byte, except that the
post code is the first scratch register.
-/

namespace ChipLink

/-- The place of a register in its array, if it comes in one. -/
def Register.index? : Register → Option Nat
  | .postCode => none
  | .miscControl => none
  | .scratch index => some index.val
  | .csmWord index => some index.val

namespace RegisterPath

/-- A text is an index: the numeral of a number below 2^64, and then a closing bracket. -/
def Indexes (text : List Char) (index : Nat) : Prop :=
  ∃ numeral, text = numeral ++ [']'] ∧ Text.Writes numeral index ∧ index < UInt64.size

/-- A path is a key, alone or with an index behind its first opening bracket. -/
inductive Parts : String → String → Option Nat → Prop where
  | bare {path : String} (plain : '[' ∉ path.toList) : Parts path path none
  | indexed {path key : String} {behind : List Char} {index : Nat}
      (split : path.toList = key.toList ++ '[' :: behind) (plain : '[' ∉ key.toList)
      (indexes : Indexes behind index) : Parts path key (some index)

/-- A path has a first opening bracket behind its key, and no index behind that. -/
def Malformed (path key : String) : Prop :=
  ∃ behind, path.toList = key.toList ++ '[' :: behind ∧ '[' ∉ key.toList ∧
    ∀ index, ¬ Indexes behind index

/-- The paths of the registers. -/
inductive Names : String → Register → Prop where
  | postCode : Names "ARC_RESET.POST_CODE" .postCode
  | miscControl : Names "ARC_RESET.ARC_MISC_CNTL" .miscControl
  | scratch {numeral : String} (index : Fin 8) (written : Text.Writes numeral.toList index.val) :
      Names ("ARC_RESET.SCRATCH[" ++ numeral ++ "]") (.scratch index)
  | csmWord {numeral : String} (index : Fin 0x20000)
      (written : Text.Writes numeral.toList index.val) :
      Names ("ARC_CSM.DATA[" ++ numeral ++ "]") (.csmWord index)

/-- What is wrong with a path that names no register. -/
inductive Objection (path : String) : RegisterError → Prop where
  /-- Behind the first opening bracket is no index. -/
  | noIndex {key : String} (malformed : Malformed path key) :
      Objection path (.invalidArrayPath key path)
  /-- There are registers with the key, but none of them has the index. -/
  | unsuited {key : String} {index : Option Nat} (parts : Parts path key index)
      (known : ∃ register : Register, register.key = key)
      (none : ∀ register : Register, register.key = key → register.index? ≠ index) :
      Objection path (.invalidArrayPath key path)
  | unknown {key : String} {index : Option Nat} (parts : Parts path key index)
      (unknown : ∀ register : Register, register.key ≠ key) :
      Objection path (.invalidPath key path)

/-! ## Taking a path apart -/

/-- A text without an opening bracket is all key. -/
theorem splitAtBracket_plain {text : List Char} (plain : '[' ∉ text) :
    splitAtBracket text = (text, none) := by
  induction text with
  | nil => rfl
  | cons c rest inductionHypothesis =>
    obtain ⟨other, plainRest⟩ := List.ne_and_not_mem_of_not_mem_cons plain
    rw [splitAtBracket, inductionHypothesis plainRest]
    exact fun bracket => other bracket.symm

/-- A text with an opening bracket is taken apart at the first one. -/
theorem splitAtBracket_bracket {key : List Char} (plain : '[' ∉ key) (behind : List Char) :
    splitAtBracket (key ++ '[' :: behind) = (key, some behind) := by
  induction key with
  | nil => rfl
  | cons c rest inductionHypothesis =>
    obtain ⟨other, plainRest⟩ := List.ne_and_not_mem_of_not_mem_cons plain
    rw [List.cons_append, splitAtBracket, inductionHypothesis plainRest]
    exact fun bracket => other bracket.symm

/-- Every text is of one of these kinds. -/
theorem plain_or_bracket (text : List Char) :
    '[' ∉ text ∨ ∃ key behind, text = key ++ '[' :: behind ∧ '[' ∉ key := by
  by_cases member : '[' ∈ text
  · exact .inr (List.eq_append_cons_of_mem member)
  · exact .inl member

/-- The numeral in front of the closing bracket at the end is the index of a text. -/
theorem closedIndex_eq_some_iff {text : List Char} {index : Nat} :
    closedIndex text = some index ↔ Indexes text index := by
  constructor
  · intro closed
    simp only [closedIndex] at closed
    split at closed
    next digits reversed =>
      obtain ⟨written, small⟩ := Text.readBelow_eq_some_iff.mp closed
      have split : text = digits.reverse ++ [']'] := by
        rw [← List.reverse_cons, ← reversed, List.reverse_reverse]
      exact ⟨digits.reverse, split, written, small⟩
    next => cases closed
  · rintro ⟨numeral, rfl, written, small⟩
    simp only [closedIndex, List.reverse_append, List.reverse_cons, List.reverse_nil,
      List.nil_append, List.singleton_append, List.reverse_reverse]
    exact Text.readBelow_eq_some_iff.mpr ⟨written, small⟩

/-! ## Looking a key up -/

/-- What is found for a key and an index is the register that has both. -/
theorem lookup_register {key : String} {index : Option Nat} {register : Register} :
    lookup key index = some (some register) ↔ register.key = key ∧ register.index? = index := by
  constructor
  · intro found
    have single {own : Register}
        (chosen : some (if index.isNone then some own else none) = some (some register)) :
        own = register ∧ index = none := by
      cases index <;> cases chosen
      exact ⟨rfl, rfl⟩
    have inArray {count : Nat} {own : Fin count → Register}
        (chosen : some (index.bind fun i => if inside : i < count then some (own ⟨i, inside⟩)
          else none) = some (some register)) : ∃ i, own i = register ∧ index = some i.val := by
      obtain ⟨i, rfl, there⟩ := Option.bind_eq_some_iff.mp (Option.some.inj chosen)
      split at there <;> cases there
      exact ⟨_, rfl, rfl⟩
    simp only [lookup] at found
    split at found
    · next same =>
      obtain ⟨rfl, rfl⟩ := single found
      exact ⟨same.symm, rfl⟩
    split at found
    · next same =>
      obtain ⟨rfl, rfl⟩ := single found
      exact ⟨same.symm, rfl⟩
    split at found
    · next same =>
      obtain ⟨_, rfl, rfl⟩ := inArray found
      exact ⟨same.symm, rfl⟩
    split at found
    · next same =>
      obtain ⟨_, rfl, rfl⟩ := inArray found
      exact ⟨same.symm, rfl⟩
    · cases found
  · rintro ⟨rfl, rfl⟩
    cases register with
    | postCode => rfl
    | miscControl => rfl
    | scratch index => simp [lookup, Register.key, Register.index?]
    | csmWord index => simp [lookup, Register.key, Register.index?]

/-- Nothing at all is found for a key exactly if no register has it. -/
theorem lookup_unknown {key : String} {index : Option Nat} :
    lookup key index = none ↔ ∀ register : Register, register.key ≠ key := by
  constructor
  · intro missing register same
    subst same
    cases register <;> simp [lookup, Register.key] at missing
  · intro unknown
    have post := unknown .postCode
    have misc := unknown .miscControl
    have scratch := unknown (.scratch 0)
    have csm := unknown (.csmWord 0)
    simp only [Register.key, ne_eq] at post misc scratch csm
    simp only [lookup, if_neg (Ne.symm post), if_neg (Ne.symm misc), if_neg (Ne.symm scratch),
      if_neg (Ne.symm csm)]

/-- A key is found without a register exactly if some registers have it, but none of them has the
index as well. -/
theorem lookup_unsuited {key : String} {index : Option Nat} :
    lookup key index = some none ↔ (∃ register : Register, register.key = key) ∧
      ∀ register : Register, register.key = key → register.index? ≠ index := by
  constructor
  · intro found
    constructor
    · by_cases known : ∃ register : Register, register.key = key
      · exact known
      · have missing : lookup key index = none :=
          lookup_unknown.mpr fun register same => known ⟨register, same⟩
        exact nomatch found.symm.trans missing
    · intro register same suits
      have both : lookup key index = some (some register) := lookup_register.mpr ⟨same, suits⟩
      exact nomatch found.symm.trans both
  · rintro ⟨⟨register, same⟩, unsuited⟩
    rcases verdict : lookup key index with _ | _ | chosen
    · exact absurd same (lookup_unknown.mp verdict register)
    · rfl
    · obtain ⟨has, suits⟩ := lookup_register.mp verdict
      exact absurd suits (unsuited chosen has)

/-- What becomes of a path with a key and at most an index. -/
def judge (path key : String) (index : Option Nat) : Except RegisterError Register :=
  match lookup key index with
  | none => .error (.invalidPath key path)
  | some none => .error (.invalidArrayPath key path)
  | some (some register) => .ok register

/-- Such a path is accepted exactly if some register has the key and the index. -/
theorem judge_eq_ok_iff {path key : String} {index : Option Nat} {register : Register} :
    judge path key index = .ok register ↔ register.key = key ∧ register.index? = index := by
  rw [← lookup_register, judge]
  rcases lookup key index with _ | _ | found <;> simp

/-- If it is refused, the refusal says whether the key is unknown or the index does not suit it. -/
theorem judge_objection {path key : String} {index : Option Nat} {error : RegisterError}
    (parts : Parts path key index) (refused : judge path key index = .error error) :
    Objection path error := by
  rw [judge] at refused
  rcases verdict : lookup key index with _ | _ | register
  · rw [verdict] at refused
    obtain rfl := Except.error.inj refused
    exact .unknown parts (lookup_unknown.mp verdict)
  · rw [verdict] at refused
    obtain rfl := Except.error.inj refused
    obtain ⟨known, unsuited⟩ := lookup_unsuited.mp verdict
    exact .unsuited parts known unsuited
  · rw [verdict] at refused
    cases refused

/-! ## Accepted and refused paths -/

variable {path key : String} {index : Option Nat} {register : Register} {error : RegisterError}

/-- A path with a key and at most an index is judged by these. -/
theorem parse_parts (parts : Parts path key index) :
    Register.parse path = judge path key index := by
  cases parts with
  | bare plain =>
    simp only [Register.parse, splitAtBracket_plain plain, String.ofList_toList]
    rfl
  | indexed split plain indexes =>
    simp only [Register.parse, split, splitAtBracket_bracket plain, String.ofList_toList,
      closedIndex_eq_some_iff.mpr indexes]
    rfl

/-- A path with something else in brackets is refused for that. -/
theorem parse_malformed (malformed : Malformed path key) :
    Register.parse path = .error (.invalidArrayPath key path) := by
  obtain ⟨behind, split, plain, noIndex⟩ := malformed
  have closed : closedIndex behind = none :=
    Option.eq_none_iff_forall_ne_some.mpr fun index closed =>
      noIndex index (closedIndex_eq_some_iff.mp closed)
  simp only [Register.parse, split, splitAtBracket_bracket plain, String.ofList_toList, closed]

/-- There are no other paths. -/
theorem parts_or_malformed (path : String) :
    (∃ key index, Parts path key index) ∨ ∃ key, Malformed path key := by
  rcases plain_or_bracket path.toList with plain | ⟨key, behind, split, plain⟩
  · exact .inl ⟨path, none, .bare plain⟩
  · rw [← String.toList_ofList (l := key)] at split plain
    by_cases closed : ∃ index, Indexes behind index
    · obtain ⟨index, indexes⟩ := closed
      exact .inl ⟨_, some index, .indexed split plain indexes⟩
    · exact .inr ⟨_, behind, split, plain, not_exists.mp closed⟩

/-- A path is read as a register exactly if it has the key and the index of that register. -/
theorem parse_eq_ok_iff :
    Register.parse path = .ok register ↔ Parts path register.key register.index? := by
  constructor
  · intro accepted
    rcases parts_or_malformed path with ⟨key, index, parts⟩ | ⟨key, malformed⟩
    · rw [parse_parts parts] at accepted
      obtain ⟨rfl, rfl⟩ := judge_eq_ok_iff.mp accepted
      exact parts
    · rw [parse_malformed malformed] at accepted
      cases accepted
  · intro parts
    rw [parse_parts parts]
    exact judge_eq_ok_iff.mpr ⟨rfl, rfl⟩

/-- A path is refused with exactly the objection that there is to it. -/
theorem parse_eq_error_iff : Register.parse path = .error error ↔ Objection path error := by
  constructor
  · intro refused
    rcases parts_or_malformed path with ⟨key, index, parts⟩ | ⟨key, malformed⟩
    · rw [parse_parts parts] at refused
      exact judge_objection parts refused
    · rw [parse_malformed malformed] at refused
      exact Except.error.inj refused ▸ .noIndex malformed
  · intro objection
    cases objection with
    | noIndex malformed => exact parse_malformed malformed
    | unsuited parts known none =>
      rw [parse_parts parts, judge, lookup_unsuited.mpr ⟨known, none⟩]
    | unknown parts unknown =>
      rw [parse_parts parts, judge, lookup_unknown.mpr unknown]

/-- The paths of a register are those with its key and its index. -/
theorem names_iff_parts : Names path register ↔ Parts path register.key register.index? := by
  constructor
  · intro names
    cases names with
    | postCode => exact .bare (by decide)
    | miscControl => exact .bare (by decide)
    | @scratch numeral index written =>
      have plain : '[' ∉ "ARC_RESET.SCRATCH".toList := by decide
      have small : index.val < UInt64.size := by simp [UInt64.size]; omega
      refine .indexed ?_ plain ⟨numeral.toList, rfl, written, small⟩
      simp [Register.key]
    | @csmWord numeral index written =>
      have plain : '[' ∉ "ARC_CSM.DATA".toList := by decide
      have small : index.val < UInt64.size := by simp [UInt64.size]; omega
      refine .indexed ?_ plain ⟨numeral.toList, rfl, written, small⟩
      simp [Register.key]
  · intro parts
    have whole {key : String} {numeral : List Char}
        (split : path.toList = key.toList ++ '[' :: (numeral ++ [']'])) :
        path = key ++ "[" ++ String.ofList numeral ++ "]" := by
      apply String.toList_injective
      simp [split]
    cases register with
    | postCode =>
      cases parts
      exact .postCode
    | miscControl =>
      cases parts
      exact .miscControl
    | scratch index =>
      obtain _ | ⟨split, plain, ⟨numeral, rfl, written, small⟩⟩ := parts
      rw [whole split]
      exact .scratch index (String.toList_ofList ▸ written)
    | csmWord index =>
      obtain _ | ⟨split, plain, ⟨numeral, rfl, written, small⟩⟩ := parts
      rw [whole split]
      exact .csmWord index (String.toList_ofList ▸ written)

end RegisterPath

open RegisterPath

/-! ## Where registers lie -/

namespace Table

/-- Where the registers of a name begin. -/
def begins (table : Table) : Register → Nat
  | .postCode => table.resetBase.toNat + 0x60
  | .miscControl => table.resetBase.toNat + 0x100
  | .scratch _ => table.resetBase.toNat + 0x60
  | .csmWord _ => table.csmBase.toNat

/-- The bases of the blocks as numbers. -/
theorem base_cases (table : Table) :
    table.resetBase.toNat = 0x1FF30000 ∧ table.csmBase.toNat = 0x1FE80000 ∨
      table.resetBase.toNat = 0x880030000 ∧ table.csmBase.toNat = 0x810000000 := by
  cases table with
  | pci => exact .inl ⟨rfl, rfl⟩
  | noc => exact .inr ⟨rfl, rfl⟩

/-- The address of a register lies one word behind that of the register before it, and no address
wraps around. -/
theorem toNat_address (table : Table) (register : Register) :
    (table.address register).toNat = table.begins register + 4 * register.index?.getD 0 := by
  have bases := table.base_cases
  have scratch : table.scratchBase.toNat = table.resetBase.toNat + 0x60 := by
    rw [scratchBase, UInt64.toNat_add]
    simp only [UInt64.reduceToNat]
    omega
  have behind (base : UInt64) {index : Nat} (small : index < 0x20000)
      (room : base.toNat < 0x900000000) :
      (base + 4 * UInt64.ofNat index).toNat = base.toNat + 4 * index := by
    simp only [UInt64.toNat_add, UInt64.toNat_mul, UInt64.toNat_ofNat', UInt64.reduceToNat]
    omega
  cases register with
  | postCode => exact scratch
  | miscControl =>
    simp only [address, begins, Register.index?, UInt64.toNat_add, UInt64.reduceToNat,
      Option.getD_none]
    omega
  | scratch index =>
    have small : index.val < 0x20000 := by omega
    have room : table.scratchBase.toNat < 0x900000000 := by omega
    simp only [address, begins, Register.index?, Option.getD_some, behind _ small room, scratch]
  | csmWord index =>
    have room : table.csmBase.toNat < 0x900000000 := by omega
    simp only [address, begins, Register.index?, Option.getD_some, behind _ index.isLt room]

end Table

/-- Whether a register is the word that has the post code: under its own name, or as the first
scratch register. -/
def Register.HoldsPostCode : Register → Prop
  | .postCode => True
  | .scratch index => index.val = 0
  | _ => False

/-- Two registers that are one word: they are the same, or both are the word that has the post
code. -/
def Register.Coincides (left right : Register) : Prop :=
  left = right ∨ left.HoldsPostCode ∧ right.HoldsPostCode

/-- Two runs of bytes that share one. -/
def Location.Overlaps (left right : Location) : Prop :=
  left.addr.toNat < right.addr.toNat + right.size ∧
    right.addr.toNat < left.addr.toNat + left.size

instance (left right : Location) : Decidable (left.Overlaps right) :=
  inferInstanceAs (Decidable (_ ∧ _))

/-- Registers that share a byte coincide. -/
theorem Table.coincides_of_overlap (table : Table) {left right : Register}
    (before : (table.address left).toNat < (table.address right).toNat + 4)
    (after : (table.address right).toNat < (table.address left).toNat + 4) :
    left.Coincides right := by
  have bases := table.base_cases
  rw [table.toNat_address, table.toNat_address] at before after
  unfold Register.Coincides
  cases left <;> cases right <;>
    simp [begins, Register.index?, Register.HoldsPostCode] at before after ⊢ <;> omega

/-- A path leads to the bytes of the register that it names. -/
theorem Table.locate_eq_ok_iff {table : Table} {path : String} {field : Location} :
    table.locate path = .ok field ↔
      ∃ register, Names path register ∧ field = ⟨table.address register, 4⟩ := by
  simp only [names_iff_parts, ← parse_eq_ok_iff, locate]
  cases Register.parse path with
  | error error => simp [Except.map]
  | ok register => simp [Except.map, Register.size, eq_comm]

/-- A path is accepted exactly if it is one of the paths of a register, and it then leads to the
four bytes of that register, which lie a word behind those of the register before it in the array.
Every other path is refused with the objection that there is to it. Two accepted paths lead to
bytes in common only if they name the same register, or the post code and the first scratch
register. -/
theorem Table.locate_follows_grammar (table : Table) (path : String) :
    (∀ field, table.locate path = .ok field ↔
      ∃ register, Names path register ∧ field.size = 4 ∧
        field.addr.toNat = table.begins register + 4 * register.index?.getD 0) ∧
    (∀ error, table.locate path = .error error ↔ Objection path error) ∧
    ∀ other left right, table.locate path = .ok left → table.locate other = .ok right →
      left.Overlaps right →
        ∃ first second, Names path first ∧ Names other second ∧ first.Coincides second := by
  refine ⟨fun field => ?_, fun error => ?_, fun other left right found also overlap => ?_⟩
  · rw [locate_eq_ok_iff]
    constructor
    · rintro ⟨register, names, rfl⟩
      exact ⟨register, names, rfl, table.toNat_address register⟩
    · rintro ⟨register, names, size, place⟩
      have addr : field.addr = table.address register :=
        UInt64.toNat_inj.mp (place.trans (table.toNat_address register).symm)
      exact ⟨register, names, by rw [← addr, ← size]⟩
  · rw [← parse_eq_error_iff, locate]
    cases Register.parse path <;> simp [Except.map]
  · obtain ⟨first, namesFirst, rfl⟩ := locate_eq_ok_iff.mp found
    obtain ⟨second, namesSecond, rfl⟩ := locate_eq_ok_iff.mp also
    obtain ⟨before, after⟩ := overlap
    exact ⟨first, second, namesFirst, namesSecond, table.coincides_of_overlap before after⟩

/-- A numeral with a plus sign and zeros leads to the last scratch register, a second opening
bracket is part of no index, and the post code has its bytes in common with one scratch register. -/
theorem Table.locate_follows_grammar_scratch :
    Table.noc.locate "ARC_RESET.SCRATCH[+007]" = .ok ⟨0x88003007C, 4⟩ ∧
      Table.noc.locate "ARC_RESET.SCRATCH[[3]" =
        .error (.invalidArrayPath "ARC_RESET.SCRATCH" "ARC_RESET.SCRATCH[[3]") ∧
      ∃ first second, Names "ARC_RESET.POST_CODE" first ∧ Names "ARC_RESET.SCRATCH[00]" second ∧
        first.Coincides second := by
  have last : Names "ARC_RESET.SCRATCH[+007]" (.scratch 7) :=
    @Names.scratch "+007" 7 ⟨2, .inr (by decide)⟩
  have noIndex : RegisterPath.closedIndex "[3]".toList = none := by decide
  have malformed : Malformed "ARC_RESET.SCRATCH[[3]" "ARC_RESET.SCRATCH" :=
    ⟨"[3]".toList, by decide, by decide, fun index indexes =>
      nomatch noIndex.symm.trans (closedIndex_eq_some_iff.mpr indexes)⟩
  have postCode : Table.noc.locate "ARC_RESET.POST_CODE" = .ok ⟨0x880030060, 4⟩ := by rfl
  have first : Table.noc.locate "ARC_RESET.SCRATCH[00]" = .ok ⟨0x880030060, 4⟩ := by rfl
  have common : Location.Overlaps ⟨0x880030060, 4⟩ ⟨0x880030060, 4⟩ := by decide
  obtain ⟨accepts, _, _⟩ := Table.noc.locate_follows_grammar "ARC_RESET.SCRATCH[+007]"
  obtain ⟨_, refuses, _⟩ := Table.noc.locate_follows_grammar "ARC_RESET.SCRATCH[[3]"
  obtain ⟨_, _, shares⟩ := Table.noc.locate_follows_grammar "ARC_RESET.POST_CODE"
  exact ⟨(accepts _).mpr ⟨.scratch 7, last, rfl, rfl⟩, (refuses _).mpr (.noIndex malformed),
    shares _ _ _ postCode first common⟩

end ChipLink
