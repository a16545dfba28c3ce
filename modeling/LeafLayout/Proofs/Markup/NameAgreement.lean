import LeafLayout.Markup.Leaf
import LeafLayout.Proofs.Text.Places

/-!
What a close tag agrees on with a name. The comparison goes octet by octet and may stop inside a
character, but an octet that ends a close tag stands in no other character's encoding, so that an
agreement always covers whole characters: the close tag spells the beginning of the name.
-/

set_option autoImplicit false

namespace LeafLayout.Markup

open Text

/-- No character's encoding begins another's. -/
theorem eq_of_isPrefix_utf8EncodeChar {c d : Char}
    (h : String.utf8EncodeChar c <+: String.utf8EncodeChar d) : c = d := by
  obtain ⟨suffix, hsuffix⟩ := h
  have hc := @ByteArray.utf8DecodeChar?_utf8EncodeChar_append suffix.toByteArray c
  have hd := @ByteArray.utf8DecodeChar?_utf8EncodeChar_append [].toByteArray d
  rw [← List.toByteArray_append, hsuffix] at hc
  rw [← List.toByteArray_append, List.append_nil, hc] at hd
  exact Option.some.inj hd

theorem utf8EncodeChar_tagEnd : String.utf8EncodeChar '>' = ['>'.toUInt8] := by
  decide

/-- The octet of a tag's end is found in the encoding of that character alone. -/
theorem getElem?_utf8EncodeChar_eq_tagEnd_iff (c : Char) (n : Nat) :
    (String.utf8EncodeChar c)[n]? = some '>'.toUInt8 ↔ c = '>' ∧ n = 0 := by
  constructor
  · intro h
    obtain ⟨hlt, hoctet⟩ := List.getElem?_eq_some_iff.mp h
    have hfirst : '>'.toUInt8.IsUTF8FirstByte := by decide
    rw [← hoctet, UInt8.isUTF8FirstByte_getElem_utf8EncodeChar] at hfirst
    subst hfirst
    obtain ⟨octet, octets, hencoded⟩ := List.exists_cons_of_ne_nil (@String.utf8EncodeChar_ne_nil c)
    rw [hencoded, List.getElem?_cons_zero, Option.some.injEq] at h
    refine ⟨(eq_of_isPrefix_utf8EncodeChar ?_).symm, rfl⟩
    rw [utf8EncodeChar_tagEnd, hencoded, h]
    exact ⟨octets, rfl⟩
  · rintro ⟨rfl, rfl⟩
    rw [utf8EncodeChar_tagEnd]
    rfl

theorem length_takeWhile_zip_lt {α : Type} [BEq α] [LawfulBEq α] (first second : List α)
    (h : ¬ first <+: second) :
    ((first.zip second).takeWhile fun pair ↦ pair.1 == pair.2).length < first.length := by
  induction first generalizing second with
  | nil => exact absurd List.nil_prefix h
  | cons x first ih =>
    cases second with
    | nil => simp
    | cons y second =>
      by_cases hxy : x = y
      · subst hxy
        have hrest : ¬ first <+: second := fun hprefix ↦
          h (List.cons_prefix_cons.mpr ⟨rfl, hprefix⟩)
        simpa using ih second hrest
      · simp [hxy]

theorem sharedOctets_cons_lt {c d : Char} (h : c ≠ d) (first second : List Char) :
    sharedOctets (c :: first) (d :: second) < c.utf8Size := by
  rw [sharedOctets, if_neg h, ← String.length_utf8EncodeChar]
  exact length_takeWhile_zip_lt _ _ fun hprefix ↦ h (eq_of_isPrefix_utf8EncodeChar hprefix)

theorem sharedOctets_tagEnd_cons {d : Char} (h : d ≠ '>') (first second : List Char) :
    sharedOctets ('>' :: first) (d :: second) = 0 := by
  have hlt := sharedOctets_cons_lt h.symm first second
  have hsize : '>'.utf8Size = 1 := rfl
  omega

theorem sharedOctets_cons_cons (c : Char) (first second : List Char) :
    sharedOctets (c :: first) (c :: second) = c.utf8Size + sharedOctets first second := by
  rw [sharedOctets, if_pos rfl]

theorem octetAt?_add_cons (c : Char) (n : Nat) (rest : List Char) :
    octetAt? (c.utf8Size + n) (c :: rest) = octetAt? n rest := by
  rw [octetAt?, if_neg (by omega), Nat.add_sub_cancel_left]

/-- In the first character only a tag's end itself has the octet of one. -/
theorem octetAt?_cons_eq_tagEnd_iff {c : Char} {n : Nat} (h : n < c.utf8Size) (rest : List Char) :
    octetAt? n (c :: rest) = some '>'.toUInt8 ↔ c = '>' ∧ n = 0 := by
  rw [octetAt?, if_pos h]
  exact getElem?_utf8EncodeChar_eq_tagEnd_iff c n

theorem octetAt?_octetCount (name after : List Char) :
    octetAt? (octetCount name) (name ++ '>' :: after) = some '>'.toUInt8 := by
  induction name with
  | nil => exact (octetAt?_cons_eq_tagEnd_iff ('>').utf8Size_pos after).mpr ⟨rfl, rfl⟩
  | cons c name ih => exact (octetAt?_add_cons c (octetCount name) (name ++ '>' :: after)).trans ih

theorem sharedOctets_append_tagEnd (name unread after : List Char) (h : '>' ∉ unread) :
    sharedOctets (name ++ '>' :: after) (name ++ unread) = octetCount name := by
  induction name with
  | nil =>
    cases unread with
    | nil => rfl
    | cons d unread => exact sharedOctets_tagEnd_cons (List.ne_of_not_mem_cons h).symm after unread
  | cons c name ih =>
    rw [List.cons_append, List.cons_append, sharedOctets_cons_cons, ih]
    rfl

/-- A close tag that ends where its agreement with a name ends spells a beginning of the name, which
need not be all of it. -/
theorem exists_of_octetAt?_sharedOctets (fullName closing : List Char)
    (h : octetAt? (sharedOctets closing fullName) closing = some '>'.toUInt8) :
    ∃ name unread after, fullName = name ++ unread ∧ closing = name ++ '>' :: after ∧
      octetCount name = sharedOctets closing fullName := by
  induction closing generalizing fullName with
  | nil => simp [octetAt?] at h
  | cons c closing ih =>
    cases fullName with
    | nil =>
      obtain ⟨rfl, -⟩ := (octetAt?_cons_eq_tagEnd_iff c.utf8Size_pos closing).mp h
      exact ⟨[], [], closing, rfl, rfl, rfl⟩
    | cons d fullName =>
      by_cases hcd : c = d
      · subst hcd
        rw [sharedOctets_cons_cons, octetAt?_add_cons] at h
        obtain ⟨name, unread, after, rfl, rfl, hcount⟩ := ih fullName h
        refine ⟨c :: name, unread, after, rfl, rfl, ?_⟩
        rw [octetCount_cons, hcount, sharedOctets_cons_cons]
        rfl
      · have hshared := sharedOctets_cons_lt hcd closing fullName
        obtain ⟨rfl, hzero⟩ := (octetAt?_cons_eq_tagEnd_iff hshared closing).mp h
        exact ⟨[], d :: fullName, closing, rfl, rfl, hzero.symm⟩

/-- The agreed length is that of the name the close tag repeats. -/
theorem agreedLength?_eq_some_iff (fullName closing : List Char) (n : Nat)
    (hfull : '>' ∉ fullName) :
    agreedLength? fullName closing = some n ↔
      ∃ name unread after, name ≠ [] ∧ fullName = name ++ unread ∧
        closing = name ++ '>' :: after ∧ octetCount name = n := by
  rw [agreedLength?]
  constructor
  · intro h
    split_ifs at h with hagreed
    obtain rfl := Option.some.inj h
    obtain ⟨name, unread, after, hname, hclosing, hcount⟩ :=
      exists_of_octetAt?_sharedOctets fullName closing hagreed.2
    refine ⟨name, unread, after, ?_, hname, hclosing, hcount⟩
    intro hempty
    rw [hempty, octetCount_nil] at hcount
    exact hagreed.1 hcount.symm
  · rintro ⟨name, unread, after, hne, rfl, rfl, rfl⟩
    have hunread : '>' ∉ unread := fun hmem ↦ hfull (List.mem_append_right name hmem)
    have hpositive : octetCount name ≠ 0 := mt eq_nil_of_octetCount_eq_zero hne
    rw [sharedOctets_append_tagEnd name unread after hunread,
      if_pos ⟨hpositive, octetAt?_octetCount name after⟩]

end LeafLayout.Markup
