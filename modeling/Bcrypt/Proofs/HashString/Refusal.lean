import Bcrypt.Proofs.HashString.Fields
import Bcrypt.Proofs.Radix64.Refusal

/-!
# Why a text is no hash string

There are nine objections to a text, from its shortness to a byte of its digest that is
no symbol. They are looked for in a fixed order, and a text is refused for the first one
that it meets. A text that meets none is a hash string, so salt and digest never turn
out to have a wrong size.
-/

set_option autoImplicit false

namespace Bcrypt

open Radix64 (FirstForeign IsSymbol)

namespace HashString

theorem cut_before {text before after : List Char} (found : cut text = some (before, after)) :
    '$' ∉ before := by
  induction text generalizing before with
  | nil => contradiction
  | cons character rest ih =>
      rw [cut] at found
      split at found
      · obtain ⟨rfl, rfl⟩ := Prod.mk.inj (Option.some.inj found)
        exact List.not_mem_nil
      · rename_i other
        obtain ⟨⟨first, last⟩, inner, same⟩ := Option.map_eq_some_iff.mp found
        obtain ⟨rfl, rfl⟩ := Prod.mk.inj same
        rw [List.mem_cons, not_or]
        exact ⟨Ne.symm other, ih inner⟩

theorem separators_of_cut {text before after : List Char}
    (found : cut text = some (before, after)) : text.count '$' = after.count '$' + 1 := by
  rw [cut_sound found, List.count_append, List.count_eq_zero_of_not_mem (cut_before found),
    List.count_cons_self, Nat.zero_add]

theorem separators_of_uncut {text : List Char} (uncut : cut text = none) : text.count '$' = 0 := by
  rw [List.count_eq_zero]
  intro member
  obtain ⟨before, after, rfl, absent⟩ := List.eq_append_cons_of_mem member
  rw [cut_at_separator before after absent] at uncut
  contradiction

/-- What stands before, between and behind the first three separators of a text. -/
structure Fields (text : List Char) (before version cost body : List Char) : Prop where
  shape : text = before ++ '$' :: (version ++ '$' :: (cost ++ '$' :: body))
  before : '$' ∉ before
  version : '$' ∉ version
  cost : '$' ∉ cost

theorem Fields.unique {text before version cost body before' version' cost' body' : List Char}
    (fields : Fields text before version cost body)
    (others : Fields text before' version' cost' body') :
    version = version' ∧ cost = cost' ∧ body = body' := by
  have first := cut_at_separator before (version ++ '$' :: (cost ++ '$' :: body)) fields.before
  rw [← fields.shape, others.shape, cut_at_separator _ _ others.before, Option.some.injEq,
    Prod.mk.injEq] at first
  have second := cut_at_separator version (cost ++ '$' :: body) fields.version
  rw [← first.2, cut_at_separator _ _ others.version, Option.some.injEq, Prod.mk.injEq] at second
  have third := cut_at_separator cost body fields.cost
  rw [← second.2, cut_at_separator _ _ others.cost, Option.some.injEq, Prod.mk.injEq] at third
  exact ⟨second.1.symm, third.1.symm, third.2.symm⟩

theorem Fields.separators {text before version cost body : List Char}
    (fields : Fields text before version cost body) : 3 ≤ text.count '$' := by
  rw [fields.shape]
  simp only [List.count_append, List.count_cons_self]
  omega

theorem fields_of_some {text version cost body : List Char}
    (found : fields? text = some (version, cost, body)) :
    ∃ before, Fields text before version cost body := by
  simp only [fields?, Option.bind_eq_bind] at found
  obtain ⟨⟨before, afterFirst⟩, firstCut, found⟩ := Option.bind_eq_some_iff.mp found
  obtain ⟨⟨second, afterSecond⟩, secondCut, found⟩ := Option.bind_eq_some_iff.mp found
  obtain ⟨⟨third, afterThird⟩, thirdCut, same⟩ := Option.bind_eq_some_iff.mp found
  obtain ⟨rfl, rfl, rfl⟩ : second = version ∧ third = cost ∧ afterThird = body := by
    simpa using same
  refine ⟨before, ?_, cut_before firstCut, cut_before secondCut, cut_before thirdCut⟩
  rw [cut_sound firstCut]
  exact congrArg (before ++ '$' :: ·)
    ((cut_sound secondCut).trans (congrArg _ (congrArg _ (cut_sound thirdCut))))

theorem separators_of_none {text : List Char} (unfound : fields? text = none) :
    text.count '$' < 3 := by
  simp only [fields?, Option.bind_eq_bind] at unfound
  cases firstCut : cut text with
  | none => simp [separators_of_uncut firstCut]
  | some first =>
      cases secondCut : cut first.2 with
      | none => simp [separators_of_cut firstCut, separators_of_uncut secondCut]
      | some second =>
          cases thirdCut : cut second.2 with
          | none =>
              simp [separators_of_cut firstCut, separators_of_cut secondCut,
                separators_of_uncut thirdCut]
          | some third => simp [firstCut, secondCut, thirdCut] at unfound

structure TwoDigits (field : List Char) (tens ones : Char) : Prop where
  shape : field = [tens, ones]
  tens : tens.isDigit = true
  ones : ones.isDigit = true

/-- What can be wrong with the fields, numbered in the order in which it is looked for. -/
inductive FieldObjection (version cost : List Char) (body : List UInt8) : Nat → Error → Prop where
  | tagShape (unshaped : ¬((Text.utf8 version).length = 2 ∧ version.head? = some '2')) :
      FieldObjection version cost body 3
        (.malformedHash ("invalid prefix " ++ Text.Quoted.quote (String.ofList version)))
  | tag (unknown : String.ofList version ∉ ["2a", "2b", "2y"]) :
      FieldObjection version cost body 4 (.unsupportedVersion (String.ofList version))
  | costShape (unshaped : ¬∃ tens ones, TwoDigits cost tens ones) :
      FieldObjection version cost body 5
        (.malformedHash ("invalid cost field " ++ Text.Quoted.quote (String.ofList cost)))
  | cost (tens ones : Char) (value : Nat) (shaped : TwoDigits cost tens ones)
      (read : value = 10 * (tens.toNat - '0'.toNat) + (ones.toNat - '0'.toNat))
      (outside : ¬(4 ≤ value ∧ value ≤ 31)) :
      FieldObjection version cost body 6 (.invalidCost value)
  | size (unsized : body.length ≠ 53) :
      FieldObjection version cost body 7
        (.malformedHash ("salt and digest are " ++ toString body.length ++
          " characters, expected " ++ toString bodyLength))
  | saltSymbol (offset : Nat) (byte : UInt8) (first : FirstForeign (body.take 22) offset byte) :
      FieldObjection version cost body 8 (.invalidSalt (.encoding (.invalidByte offset byte)))
  | digestSymbol (offset : Nat) (byte : UInt8) (first : FirstForeign (body.drop 22) offset byte) :
      FieldObjection version cost body 9 (.invalidEncoding (.invalidByte offset byte))

inductive Objection (text : String) : Nat → Error → Prop where
  | short (unopened : (Text.bytes text).length < 4 ∨ text.toList.head? ≠ some '$') :
      Objection text 1 (.malformedHash "hash string too short")
  | unseparated (few : text.toList.count '$' < 3) :
      Objection text 2 (.malformedHash "missing '$' separators")
  | field (before version cost body : List Char) (rank : Nat) (error : Error)
      (fields : Fields text.toList before version cost body)
      (objection : FieldObjection version cost (Text.utf8 body) rank error) :
      Objection text rank error

def FirstObjection (text : String) (error : Error) : Prop :=
  ∃ rank, Objection text rank error ∧ ∀ earlier < rank, ∀ other, ¬Objection text earlier other

theorem FieldObjection.unique {version cost : List Char} {body : List UInt8} {rank : Nat}
    {error other : Error} (objection : FieldObjection version cost body rank error)
    (otherObjection : FieldObjection version cost body rank other) : error = other := by
  cases objection with
  | tagShape | tag | costShape | size =>
      cases otherObjection
      rfl
  | cost tens ones value shaped read =>
      obtain _ | _ | _ | ⟨_, _, _, otherShaped, otherRead⟩ := otherObjection
      have same := shaped.shape
      rw [otherShaped.shape, List.cons.injEq, List.cons.injEq] at same
      rw [read, otherRead, same.1, same.2.1]
  | saltSymbol offset byte first =>
      obtain _ | _ | _ | _ | _ | ⟨_, _, otherFirst⟩ := otherObjection
      obtain ⟨rfl, rfl⟩ := first.unique otherFirst
      rfl
  | digestSymbol offset byte first =>
      obtain _ | _ | _ | _ | _ | _ | ⟨_, _, otherFirst⟩ := otherObjection
      obtain ⟨rfl, rfl⟩ := first.unique otherFirst
      rfl

/-- Behind the second rank only the fields are objected to, whichever way they were found. -/
theorem Objection.of_fields {text : String} {before version cost body : List Char} {rank : Nat}
    {error : Error} (fields : Fields text.toList before version cost body)
    (objection : Objection text rank error) (late : 3 ≤ rank) :
    FieldObjection version cost (Text.utf8 body) rank error := by
  cases objection with
  | short => contradiction
  | unseparated => contradiction
  | field _ _ _ _ _ _ others inner =>
      obtain ⟨rfl, rfl, rfl⟩ := fields.unique others
      exact inner

theorem FieldObjection.rank_bounds {version cost : List Char} {body : List UInt8} {rank : Nat}
    {error : Error} (objection : FieldObjection version cost body rank error) :
    3 ≤ rank ∧ rank < 10 := by
  cases objection <;> decide

theorem Objection.rank_bounds {text : String} {rank : Nat} {error : Error}
    (objection : Objection text rank error) : 1 ≤ rank ∧ rank < 10 := by
  cases objection with
  | short => decide
  | unseparated => decide
  | field _ _ _ _ _ _ _ inner =>
      have bounds := inner.rank_bounds
      omega

theorem Objection.unique {text : String} {rank : Nat} {error other : Error}
    (objection : Objection text rank error) (otherObjection : Objection text rank other) :
    error = other := by
  cases objection with
  | short =>
      cases otherObjection with
      | short => rfl
      | field _ _ _ _ _ _ _ inner => exact absurd inner.rank_bounds (by decide)
  | unseparated =>
      cases otherObjection with
      | unseparated => rfl
      | field _ _ _ _ _ _ _ inner => exact absurd inner.rank_bounds (by decide)
  | field _ _ _ _ _ _ fields inner =>
      exact inner.unique (otherObjection.of_fields fields inner.rank_bounds.1)

theorem FirstObjection.unique {text : String} {error other : Error}
    (first : FirstObjection text error) (otherFirst : FirstObjection text other) :
    error = other := by
  rcases first with ⟨rank, objection, before⟩
  rcases otherFirst with ⟨otherRank, otherObjection, otherBefore⟩
  have same : rank = otherRank := by
    have notAfter : ¬otherRank < rank :=
      fun earlier => before otherRank earlier other otherObjection
    have notBefore : ¬rank < otherRank := fun earlier => otherBefore rank earlier error objection
    omega
  subst same
  exact objection.unique otherObjection

/-- A reader looks for the objections of ranks from `start` to below `stop`, and for no
others: it is refused for the first of them, and passed if there is none. -/
structure LooksFor {α : Type} (objection : Nat → Error → Prop) (start stop : Nat)
    (read : Except Error α) : Prop where
  refused : ∀ error, read = .error error →
    ∃ rank, start ≤ rank ∧ rank < stop ∧ objection rank error ∧
      ∀ earlier, start ≤ earlier → earlier < rank → ∀ other, ¬objection earlier other
  passed : ∀ value, read = .ok value →
    ∀ rank, start ≤ rank → rank < stop → ∀ error, ¬objection rank error

section

variable {α β : Type} {objection : Nat → Error → Prop} {start middle stop : Nat}

theorem LooksFor.bind {first : Except Error α} {next : α → Except Error β}
    (order : start ≤ middle ∧ middle ≤ stop) (reads : LooksFor objection start middle first)
    (readsNext : ∀ value, first = .ok value → LooksFor objection middle stop (next value)) :
    LooksFor objection start stop (first >>= next) := by
  cases ended : first with
  | error refusal =>
      constructor
      · intro error failed
        obtain rfl : refusal = error := Except.error.inj failed
        rcases reads.refused refusal ended with ⟨rank, above, below, objected, before⟩
        exact ⟨rank, above, by omega, objected, before⟩
      · rintro _ ⟨⟩
  | ok value =>
      have following := readsNext value ended
      have free := reads.passed value ended
      constructor
      · intro error failed
        rcases following.refused error failed with ⟨rank, above, below, objected, before⟩
        refine ⟨rank, by omega, below, objected, ?_⟩
        intro earlier atLeast less
        by_cases inFirst : earlier < middle
        · exact free earlier atLeast inFirst
        · exact before earlier (by omega) less
      · intro result succeeded rank above below
        by_cases inFirst : rank < middle
        · exact free rank above inFirst
        · exact following.passed result succeeded rank (by omega) below

theorem LooksFor.of_error {error : Error} {rank : Nat} (bounds : start ≤ rank ∧ rank < stop)
    (objected : objection rank error)
    (before : ∀ earlier, start ≤ earlier → earlier < rank → ∀ other, ¬objection earlier other) :
    LooksFor objection start stop (.error error : Except Error α) := by
  constructor
  · rintro _ ⟨⟩
    exact ⟨rank, bounds.1, bounds.2, objected, before⟩
  · rintro _ ⟨⟩

theorem LooksFor.of_ok {value : α}
    (free : ∀ rank, start ≤ rank → rank < stop → ∀ error, ¬objection rank error) :
    LooksFor objection start stop (.ok value) := by
  constructor
  · rintro _ ⟨⟩
  · intro _ _
    exact free

end

section

variable {version cost : List Char} {body : List UInt8}

theorem version_of_tag (text : String) (known : text ∈ ["2a", "2b", "2y"]) :
    ∃ version, Version.parse text = .ok version := by
  simp only [List.mem_cons, List.not_mem_nil, or_false] at known
  rcases known with rfl | rfl | rfl
  · exact ⟨.v2a, rfl⟩
  · exact ⟨.v2b, rfl⟩
  · exact ⟨.v2y, rfl⟩

theorem version_of_unknown (text : String) (unknown : text ∉ ["2a", "2b", "2y"]) :
    Version.parse text = .error (.unsupportedVersion text) := by
  simp only [List.mem_cons, List.not_mem_nil, or_false, not_or] at unknown
  rw [Version.parse, if_neg unknown.1, if_neg unknown.2.1, if_neg unknown.2.2]

theorem version_looks_for :
    LooksFor (FieldObjection version cost body) 3 5 (parseVersion version) := by
  rw [parseVersion]
  by_cases shaped : (Text.utf8 version).length = 2 ∧ version.head? = some '2'
  · rw [if_pos shaped]
    have noShape : ∀ earlier, 3 ≤ earlier → earlier < 4 → ∀ other,
        ¬FieldObjection version cost body earlier other := by
      rintro _ least less _ objection
      cases objection with
      | tagShape unshaped => exact unshaped shaped
      | _ => omega
    by_cases known : String.ofList version ∈ ["2a", "2b", "2y"]
    · rcases version_of_tag _ known with ⟨tag, read⟩
      rw [read]
      apply LooksFor.of_ok
      intro rank least less error objection
      cases objection with
      | tagShape unshaped => exact unshaped shaped
      | tag unknown => exact unknown known
      | _ => omega
    · rw [version_of_unknown _ known]
      exact .of_error (by decide) (.tag known) noShape
  · rw [if_neg shaped]
    exact .of_error (by decide) (.tagShape shaped) (by omega)

theorem two_digits_iff (field : List Char) :
    (field.length = 2 ∧ field.all Char.isDigit = true) ↔
      ∃ tens ones, TwoDigits field tens ones := by
  constructor
  · rintro ⟨length, digits⟩
    rcases List.length_eq_two.mp length with ⟨tens, ones, rfl⟩
    have each := List.all_eq_true.mp digits
    exact ⟨tens, ones, rfl, each tens (by simp), each ones (by simp)⟩
  · rintro ⟨tens, ones, shaped⟩
    simp [shaped.shape, shaped.tens, shaped.ones]

theorem value_of_two_digits {field : List Char} {tens ones : Char}
    (shaped : TwoDigits field tens ones) :
    Nat.ofDigitChars 10 field 0 = 10 * (tens.toNat - '0'.toNat) + (ones.toNat - '0'.toNat) := by
  rw [shaped.shape, Nat.ofDigitChars_cons, Nat.ofDigitChars_cons, Nat.ofDigitChars_nil,
    Nat.mul_zero, Nat.zero_add]

theorem cost_looks_for : LooksFor (FieldObjection version cost body) 5 7 (parseCost cost) := by
  rw [parseCost]
  by_cases shaped : cost.length = 2 ∧ cost.all Char.isDigit = true
  · rw [if_pos shaped]
    have digits := (two_digits_iff cost).mp shaped
    rcases digits with ⟨tens, ones, twoDigits⟩
    have noShape : ∀ earlier, 5 ≤ earlier → earlier < 6 → ∀ other,
        ¬FieldObjection version cost body earlier other := by
      rintro _ least less _ objection
      cases objection with
      | costShape unshaped => exact unshaped ⟨tens, ones, twoDigits⟩
      | _ => omega
    rw [Cost.ofNat]
    split
    · rename_i inRange
      apply LooksFor.of_ok
      intro rank least less error objection
      cases objection with
      | costShape unshaped => exact unshaped ⟨tens, ones, twoDigits⟩
      | cost _ _ _ otherDigits read outside =>
          rw [value_of_two_digits otherDigits, ← read] at inRange
          exact outside inRange
      | _ => omega
    · rename_i outside
      exact .of_error (by decide)
        (.cost tens ones _ twoDigits (value_of_two_digits twoDigits) outside) noShape
  · rw [if_neg shaped]
    exact .of_error (by decide) (.costShape (mt (two_digits_iff cost).mpr shaped)) (by omega)

theorem body_looks_for : LooksFor (FieldObjection version cost body) 7 10 (parseBody body) := by
  rw [parseBody]
  by_cases sized : body.length = bodyLength
  · rw [if_pos sized]
    have fiftyThree : body.length = 53 := sized
    have saltSized : (body.take Salt.encodedLength).length = 22 := by
      rw [List.length_take, fiftyThree]
      rfl
    have digestSized : (body.drop Salt.encodedLength).length = 31 := by
      rw [List.length_drop, fiftyThree]
      rfl
    cases saltRead : Salt.decode (body.take Salt.encodedLength) with
    | error error =>
        rcases Salt.reads_size.refused_of_sized saltSized saltRead with ⟨offset, byte, first, rfl⟩
        apply LooksFor.of_error (by decide) (.saltSymbol offset byte first)
        rintro _ least less _ objection
        cases objection with
        | size unsized => exact unsized fiftyThree
        | _ => omega
    | ok salt =>
        have saltSymbols := Salt.reads_size.symbols_of_read saltRead
        cases digestRead : Digest.decode (body.drop Salt.encodedLength) with
        | error error =>
            rcases Digest.reads_size.refused_of_sized digestSized digestRead with
              ⟨offset, byte, first, rfl⟩
            apply LooksFor.of_error (by decide) (.digestSymbol offset byte first)
            rintro _ least less _ objection
            cases objection with
            | size unsized => exact unsized fiftyThree
            | saltSymbol _ _ foreign => exact foreign.not_all_symbols saltSymbols
            | _ => omega
        | ok digest =>
            apply LooksFor.of_ok
            rintro _ least less _ objection
            cases objection with
            | size unsized => exact unsized fiftyThree
            | saltSymbol _ _ foreign => exact foreign.not_all_symbols saltSymbols
            | digestSymbol _ _ foreign =>
                exact foreign.not_all_symbols (Digest.reads_size.symbols_of_read digestRead)
            | _ => omega
  · rw [if_neg sized]
    have unsized : body.length ≠ 53 := sized
    exact .of_error (by decide) (.size unsized) (by omega)

end

theorem parse_looks_for (text : String) : LooksFor (Objection text) 1 10 (parse text) := by
  rw [parse]
  by_cases unopened : (Text.bytes text).length < 4 ∨ text.toList.head? ≠ some '$'
  · rw [if_pos unopened]
    exact .of_error (by decide) (.short unopened) (by omega)
  · rw [if_neg unopened]
    cases found : fields? text.toList with
    | none =>
        apply LooksFor.of_error (by decide) (.unseparated (separators_of_none found))
        intro earlier least less other objection
        cases objection with
        | short short => exact unopened short
        | unseparated => omega
        | field _ _ _ _ _ _ _ inner => exact absurd inner.rank_bounds (by omega)
    | some marked =>
        obtain ⟨versionField, costField, body⟩ := marked
        rcases fields_of_some found with ⟨before, fields⟩
        have reads : LooksFor (FieldObjection versionField costField (Text.utf8 body)) 3 10
            (parseVersion versionField >>= fun version => parseCost costField >>= fun cost =>
              parseBody (Text.utf8 body) >>= fun pair =>
                pure (⟨version, cost, pair.1, pair.2⟩ : HashString)) := by
          apply LooksFor.bind (by decide) version_looks_for
          intro version _
          apply LooksFor.bind (by decide) cost_looks_for
          intro cost _
          apply LooksFor.bind (by decide) body_looks_for
          intro _ _
          exact .of_ok (by omega)
        -- No objection of the first two ranks holds, and the later ones are those to the fields.
        have early : ∀ earlier, earlier < 3 → ∀ other, ¬Objection text earlier other := by
          intro earlier less other objection
          cases objection with
          | short short => exact unopened short
          | unseparated few => exact absurd fields.separators (Nat.not_le.mpr few)
          | field _ _ _ _ _ _ _ inner => exact absurd inner.rank_bounds (by omega)
        constructor
        · intro error failed
          rcases reads.refused error failed with ⟨rank, least, less, objected, free⟩
          refine ⟨rank, by omega, less, .field _ _ _ _ _ _ fields objected, ?_⟩
          intro earlier _ inFront other objection
          by_cases first : earlier < 3
          · exact early earlier first other objection
          · exact free earlier (by omega) inFront other (objection.of_fields fields (by omega))
        · intro parts succeeded rank _ less error objection
          by_cases first : rank < 3
          · exact early rank first error objection
          · exact reads.passed parts succeeded rank (by omega) less error
              (objection.of_fields fields (by omega))

theorem parse_eq_error_iff (text : String) (error : Error) :
    parse text = .error error ↔ FirstObjection text error := by
  have looks := parse_looks_for text
  have first_of_refusal : ∀ refusal, parse text = .error refusal → FirstObjection text refusal := by
    intro refusal refused
    rcases looks.refused refusal refused with ⟨rank, _, _, objected, free⟩
    refine ⟨rank, objected, ?_⟩
    intro earlier less other objection
    exact free earlier objection.rank_bounds.1 less other objection
  constructor
  · exact first_of_refusal error
  · intro first
    cases ended : parse text with
    | error refusal => rw [(first_of_refusal refusal ended).unique first]
    | ok parts =>
        rcases first with ⟨rank, objected, _⟩
        have bounds := objected.rank_bounds
        exact absurd objected (looks.passed parts ended rank bounds.1 bounds.2 error)

/-- Errors that no text of a hash string leads to: wrong sizes and lengths of salt and
digest, and what belongs to other parts of the library. -/
inductive NeverGiven : Error → Prop where
  | saltSize (size : Nat) : NeverGiven (.invalidSalt (.length size))
  | saltLength (length : Nat) : NeverGiven (.invalidSalt (.encoding (.invalidLength length)))
  | digestSize (size : Nat) :
      NeverGiven (.malformedHash ("digest decodes to " ++ toString size ++ " bytes, expected " ++
        toString Limits.digestSize))
  | digestLength (length : Nat) : NeverGiven (.invalidEncoding (.invalidLength length))
  | buffer (needed actual : Nat) : NeverGiven (.bufferTooSmall needed actual)
  | internal (detail : String) : NeverGiven (.internal detail)

theorem Objection.detail_head {text : String} {rank : Nat} {error : Error}
    (objection : Objection text rank error) {detail : String}
    (malformed : error = .malformedHash detail) : detail.toList.head? ≠ some 'd' := by
  cases objection with
  | short | unseparated =>
      cases malformed
      decide
  | field _ _ _ _ _ _ _ inner =>
      cases inner with
      | tagShape | costShape | size =>
          cases malformed
          simp
      | _ => contradiction

theorem Objection.given {text : String} {rank : Nat} {error : Error}
    (objection : Objection text rank error) : ¬NeverGiven error := by
  intro never
  cases never with
  | digestSize size => exact absurd (by simp) (objection.detail_head rfl)
  | _ =>
      cases objection with
      | field _ _ _ _ _ _ _ inner => cases inner

/-- A text is refused exactly for the first objection that it meets: it is short or does
not start with a separator, it has fewer than three separators, its tag is misshapen or
unknown, its cost is not two digits or out of range, its body has the wrong size, or a
byte of its salt and then of its digest is no symbol. No other error is given. -/
theorem refused_for_first_objection (text : String) :
    (∀ error, parse text = .error error ↔ FirstObjection text error) ∧
      ∀ error, NeverGiven error → parse text ≠ .error error := by
  refine ⟨parse_eq_error_iff text, ?_⟩
  intro error never refused
  rcases (parse_eq_error_iff text error).mp refused with ⟨rank, objection, _⟩
  exact objection.given never

/-- A text of six separators with an unknown tag, a wrong cost and a wrong size, and a
text with two foreign bytes in the salt and one in the digest. -/
theorem refused_for_first_of_several_objections :
    let first := "$2x$3$$$$"
    let second := "$2b$31$CCCCCCCCCC+CCCCCCCCC=.E5YPO9kmyuRGyh0XouQYb4YMJKvyOe$"
    (parse first = .error (.unsupportedVersion "2x") ∧
      FirstObjection first (.unsupportedVersion "2x")) ∧
      (parse second = .error (.invalidSalt (.encoding (.invalidByte 10 '+'.toUInt8))) ∧
        FirstObjection second (.invalidSalt (.encoding (.invalidByte 10 '+'.toUInt8)))) ∧
      NeverGiven (.internal "") ∧ parse first ≠ .error (.internal "") := by
  intro first second
  have firstRefused : parse first = .error (.unsupportedVersion "2x") := by decide +kernel
  have secondRefused :
      parse second = .error (.invalidSalt (.encoding (.invalidByte 10 '+'.toUInt8))) := by
    decide +kernel
  have never : NeverGiven (.internal "") := .internal ""
  rcases refused_for_first_objection first with ⟨objections, excluded⟩
  rcases refused_for_first_objection second with ⟨otherObjections, _⟩
  exact ⟨⟨firstRefused, (objections _).mp firstRefused⟩,
    ⟨secondRefused, (otherObjections _).mp secondRefused⟩, never, excluded _ never⟩

end HashString

end Bcrypt
