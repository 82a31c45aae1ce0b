/-!
# The order of texts by their bytes

Texts are compared by the code points of their characters. Their UTF-8 bytes stand in the same
order (`Text.lt_iff_bytes_lt`): of two characters the one with the smaller code point has the
smaller encoding, and neither encoding begins the other, so the first place where two texts differ
is also the first where their bytes differ.
-/

set_option autoImplicit false

namespace ScenarioTables.Text

/-- The bytes of a text in UTF-8. -/
def bytes (s : String) : List UInt8 :=
  s.toUTF8.data.toList

/-- The bytes of a text are those of its characters. -/
theorem bytes_eq_flatMap (s : String) : bytes s = s.toList.flatMap String.utf8EncodeChar := by
  conv => lhs; rw [← String.ofList_toList (s := s)]
  exact List.toList_data_toByteArray

/-! ## One character -/

private theorem cons_lt_cons {first second : Nat} (hfirst : first < 256) (hsecond : second < 256)
    {rest others : List UInt8} :
    UInt8.ofNat first :: rest < UInt8.ofNat second :: others
      ↔ first < second ∨ first = second ∧ rest < others := by
  rw [List.cons_lt_cons_iff, UInt8.lt_iff_toNat_lt, ← UInt8.toNat_inj,
    UInt8.toNat_ofNat_of_lt' hfirst, UInt8.toNat_ofNat_of_lt' hsecond]

/-- Of two numbers the smaller one is smaller in the parts above the last six bits, or in these. -/
private theorem sextet_lt {smaller larger : Nat} (h : smaller < larger) :
    smaller / 64 < larger / 64
      ∨ smaller / 64 = larger / 64 ∧ smaller % 64 < larger % 64 := by
  omega

/-- Of two code points the smaller one is smaller in the first sextet in which they differ. -/
private theorem sextets_lt {smaller larger : Nat} (h : smaller < larger) :
    smaller / 262144 < larger / 262144
      ∨ smaller / 262144 = larger / 262144
        ∧ (smaller / 4096 % 64 < larger / 4096 % 64
          ∨ smaller / 4096 % 64 = larger / 4096 % 64
            ∧ (smaller / 64 % 64 < larger / 64 % 64
              ∨ smaller / 64 % 64 = larger / 64 % 64 ∧ smaller % 64 < larger % 64)) := by
  have hdiv (code : Nat) : code / 4096 = code / 64 / 64 ∧ code / 262144 = code / 64 / 64 / 64 := by
    simp only [Nat.div_div_eq_div_mul, Nat.reduceMul, and_self]
  rw [(hdiv smaller).1, (hdiv larger).1, (hdiv smaller).2, (hdiv larger).2]
  rcases sextet_lt h with hhigh | ⟨hsame, hlow⟩
  · rcases sextet_lt hhigh with hhigher | ⟨hsame, hlow⟩
    · rcases sextet_lt hhigher with hhighest | ⟨hsame, hlow⟩
      · exact .inl hhighest
      · exact .inr ⟨hsame, .inl hlow⟩
    · rw [hsame]
      exact .inr ⟨rfl, .inr ⟨rfl, .inl hlow⟩⟩
  · rw [hsame]
    exact .inr ⟨rfl, .inr ⟨rfl, .inr ⟨rfl, hlow⟩⟩⟩

/-- A smaller character has the smaller encoding, whatever follows. -/
theorem utf8EncodeChar_append_lt {c d : Char} (h : c < d) (rest others : List UInt8) :
    String.utf8EncodeChar c ++ rest < String.utf8EncodeChar d ++ others := by
  have hlt : c.val.toNat < d.val.toNat := h
  have hmax : d.val.toNat < 0x110000 := by
    have hvalid := d.valid
    unfold UInt32.isValidChar Nat.isValidChar at hvalid
    omega
  unfold String.utf8EncodeChar
  dsimp only
  generalize c.val.toNat = smaller at *
  generalize d.val.toNat = larger at *
  have hsextets := sextets_lt hlt
  have hhighest (code : Nat) (hcode : code < 0x110000) : code / 262144 % 8 = code / 262144 := by
    omega
  rw [hhighest smaller (Nat.lt_trans hlt hmax), hhighest larger hmax]
  -- A longer encoding has the larger first byte; encodings of one length differ where the first
  -- sextet does.
  repeat' split
  all_goals
    simp (disch := omega) only [List.cons_append, List.nil_append, cons_lt_cons]
    omega

theorem utf8EncodeChar_ne_nil (c : Char) : String.utf8EncodeChar c ≠ [] := by
  unfold String.utf8EncodeChar
  dsimp only
  repeat' split
  all_goals exact List.cons_ne_nil _ _

/-! ## Whole texts -/

private theorem flatMap_lt {cs ds : List Char} (h : cs < ds) :
    cs.flatMap String.utf8EncodeChar < ds.flatMap String.utf8EncodeChar := by
  induction cs generalizing ds with
  | nil =>
    cases ds with
    | nil => exact absurd h (List.lt_irrefl _)
    | cons d ds =>
      rw [List.flatMap_nil, List.flatMap_cons]
      obtain ⟨first, rest, hfirst⟩ := List.exists_cons_of_ne_nil (utf8EncodeChar_ne_nil d)
      rw [hfirst]
      exact List.nil_lt_cons _ _
  | cons c cs ih =>
    cases ds with
    | nil => exact absurd h (List.not_lt_nil _)
    | cons d ds =>
      rw [List.flatMap_cons, List.flatMap_cons]
      rcases List.cons_lt_cons_iff.mp h with hfirst | ⟨rfl, hrest⟩
      · exact utf8EncodeChar_append_lt hfirst _ _
      · exact List.append_left_lt (ih hrest)

/-- **Byte order is the order of texts.** -/
theorem lt_iff_bytes_lt {s t : String} : s < t ↔ bytes s < bytes t := by
  have hforward {s t : String} (h : s < t) : bytes s < bytes t := by
    rw [bytes_eq_flatMap, bytes_eq_flatMap]
    exact flatMap_lt h
  refine ⟨hforward, fun h => ?_⟩
  rcases Decidable.em (s < t) with hlt | hge
  · exact hlt
  · rcases Decidable.em (t < s) with hgt | hle
    · exact absurd (hforward hgt) (List.lt_asymm h)
    · cases String.le_antisymm (String.not_lt.mp hge) (String.not_lt.mp hle)
      exact absurd h (List.lt_irrefl _)

/-- Texts are ordered as their bytes are. -/
theorem le_iff_bytes_le {s t : String} : s ≤ t ↔ bytes s ≤ bytes t := by
  rw [← String.not_lt, lt_iff_bytes_lt, List.not_lt]

end ScenarioTables.Text
