import Scenarist.App.Sink

/-! # The order of encoded texts

Texts are compared by the codes of their characters. Their bytes give the same
order: of two characters the one with the smaller code has the smaller bytes, and
already so before either of them ends. -/

namespace Scenarist.Text

open App

/-! ## Characters -/

theorem ofNat_lt_ofNat {first second : Nat} (before : first < second) (isByte : second < 256) :
    UInt8.ofNat first < UInt8.ofNat second := by
  rw [UInt8.lt_iff_toNat_lt, UInt8.toNat_ofNat', UInt8.toNat_ofNat', Nat.mod_eq_of_lt isByte,
    Nat.mod_eq_of_lt (Nat.lt_trans before isByte)]
  exact before

theorem cons_lt_cons_of_lt {first second : Nat} (before : first < second) (isByte : second < 256)
    (others more : List UInt8) : UInt8.ofNat first :: others < UInt8.ofNat second :: more :=
  List.cons_lt_cons_iff.mpr (.inl (ofNat_lt_ofNat before isByte))

theorem cons_lt_cons_of_le {first second : Nat} (notAfter : first ≤ second) (isByte : second < 256)
    {others more : List UInt8} (behind : first = second → others < more) :
    UInt8.ofNat first :: others < UInt8.ofNat second :: more := by
  rcases Nat.lt_or_eq_of_le notAfter with before | same
  · exact cons_lt_cons_of_lt before isByte others more
  · exact List.cons_lt_cons_iff.mpr (.inr ⟨congrArg UInt8.ofNat same, behind same⟩)

theorem utf8EncodeChar_append_lt {first second : Char} (before : first.toNat < second.toNat)
    (rest others : List UInt8) :
    String.utf8EncodeChar first ++ rest < String.utf8EncodeChar second ++ others := by
  have isCode : second.val.toNat < 1114112 := by
    rcases second.valid with low | high <;> omega
  have before : first.val.toNat < second.val.toNat := before
  simp only [String.utf8EncodeChar]
  generalize first.val.toNat = code at before ⊢
  generalize second.val.toNat = other at before isCode ⊢
  -- A longer sequence has the greater first byte. In sequences of one length the bytes are the
  -- digits of the codes.
  split
  · split
    · exact cons_lt_cons_of_lt before (by omega) ..
    · split
      · exact cons_lt_cons_of_lt (by omega) (by omega) ..
      · split <;> exact cons_lt_cons_of_lt (by omega) (by omega) ..
  · split
    · split
      · omega
      · split
        · refine cons_lt_cons_of_le (by omega) (by omega) fun same => ?_
          exact cons_lt_cons_of_lt (by omega) (by omega) ..
        · split <;> exact cons_lt_cons_of_lt (by omega) (by omega) ..
    · split
      · split
        · omega
        · split
          · omega
          · split
            · refine cons_lt_cons_of_le (by omega) (by omega) fun same => ?_
              refine cons_lt_cons_of_le (by omega) (by omega) fun next => ?_
              exact cons_lt_cons_of_lt (by omega) (by omega) ..
            · exact cons_lt_cons_of_lt (by omega) (by omega) ..
      · split
        · omega
        · split
          · omega
          · split
            · omega
            · refine cons_lt_cons_of_le (by omega) (by omega) fun same => ?_
              refine cons_lt_cons_of_le (by omega) (by omega) fun next => ?_
              refine cons_lt_cons_of_le (by omega) (by omega) fun third => ?_
              exact cons_lt_cons_of_lt (by omega) (by omega) ..

/-! ## Texts and their sequences -/

theorem encode_cons (head : Char) (rest : Text) :
    encode (head :: rest) = String.utf8EncodeChar head ++ encode rest := rfl

theorem eq_of_compare_codes {first second : Text}
    (same : List.compareLex compare (first.map Char.toNat) (second.map Char.toNat) = .eq) :
    first = second :=
  (List.map_inj_right fun _ _ => Char.toNat_inj.mp).mp (Std.LawfulEqCmp.eq_of_compare same)

theorem encode_lt_of_compare_codes {first second : Text}
    (before : List.compareLex compare (first.map Char.toNat) (second.map Char.toNat) = .lt) :
    encode first < encode second := by
  induction first generalizing second with
  | nil =>
      cases second with
      | nil => nomatch before
      | cons head rest =>
          rw [encode_cons]
          rcases List.exists_cons_of_ne_nil (String.utf8EncodeChar_ne_nil (c := head))
            with ⟨byte, bytes, isCons⟩
          rw [isCons]
          exact List.nil_lt_cons ..
  | cons head rest induction =>
      cases second with
      | nil => nomatch before
      | cons other others =>
          rw [List.map_cons, List.map_cons, List.compareLex_cons_cons, Ordering.then_eq_lt]
            at before
          rw [encode_cons, encode_cons]
          rcases before with smaller | ⟨same, behind⟩
          · exact utf8EncodeChar_append_lt (Nat.compare_eq_lt.mp smaller) ..
          · rw [Char.toNat_inj.mp (Nat.compare_eq_eq.mp same)]
            exact List.append_left_lt (induction behind)

end Scenarist.Text
