import Courier.Proofs.ReadingBack.Utf8
import Courier.Proofs.Spellings
import Courier.Url.Template
import Mathlib.Data.List.Infix
/-
Absolute URLs and URLs under a base. Whether a URL is absolute is looked up in
the first eight bytes of it, or in all of it where they end within a character
or there are not so many. The cut takes nothing away from either scheme, so it
does not matter where it falls (`Url.isAbsolute_iff`): the characters of a
scheme are ASCII in any case, so a scheme takes no more than eight bytes.

A URL under a base is put together from what is left of both after the slashes
between them were taken off, so it does not matter how many there were
(`Url.underBase_joins`).
-/
namespace Courier

namespace Utf8

/-- The first bytes are those of a front of the text, as far as there is one with just so many
bytes. -/
theorem front?_eq_some {n : Nat} {text front : List Char} :
    front? n text = some front ↔ ∃ rest, text = front ++ rest ∧ (ofChars front).length = n := by
  have hpos (c : Char) : 0 < c.utf8Size := c.utf8Size_pos
  induction text generalizing n front with
  | nil => rcases n with _ | n <;> rcases front with _ | ⟨d, front⟩ <;> simp [front?]
  | cons c text ih =>
    rcases n with _ | n
    · rcases front with _ | ⟨d, front⟩
      · simp [front?]
      · have hd := hpos d
        simp [front?]
        omega
    by_cases hc : c.utf8Size ≤ n + 1
    · rw [front?, if_pos hc, Option.map_eq_some_iff]
      constructor
      · rintro ⟨front, hfront, rfl⟩
        obtain ⟨rest, rfl, hlength⟩ := ih.mp hfront
        refine ⟨rest, rfl, ?_⟩
        simp [hlength]
        omega
      · rintro ⟨rest, htext, hlength⟩
        rcases front with _ | ⟨d, front⟩
        · simp at hlength
        · obtain ⟨rfl, rfl⟩ := List.cons.inj htext
          refine ⟨front, ih.mpr ⟨rest, rfl, ?_⟩, rfl⟩
          simp at hlength
          omega
    · rw [front?, if_neg hc]
      simp only [reduceCtorEq, false_iff, not_exists, not_and]
      intro rest htext hlength
      rcases front with _ | ⟨d, front⟩
      · simp at hlength
      · obtain ⟨rfl, -⟩ := List.cons.inj htext
        simp at hlength
        omega

end Utf8

namespace Ascii

/-- Only a character of ASCII has one of ASCII for its lower case. -/
theorem lt_of_lowerChar_lt {c : Char} (h : (lowerChar c).toNat < 0x80) : c.toNat < 0x80 := by
  by_contra hc
  rw [lowerChar_of_le (Nat.le_of_not_lt hc)] at h
  exact hc h

end Ascii

namespace Url

open Utf8 (ofChars)

/-! ## Absolute URLs -/

/-- A text begins with another in any case of ASCII letters. -/
theorem isPrefixOf_lower {scheme text : List Char} :
    scheme.isPrefixOf (text.map Ascii.lowerChar) = true ↔
    ∃ start rest, text = start ++ rest ∧ start.map Ascii.lowerChar = scheme := by
  rw [List.isPrefixOf_iff_prefix]
  constructor
  · rintro ⟨more, hmore⟩
    obtain ⟨start, rest, rfl, hstart, -⟩ := List.map_eq_append_iff.mp hmore.symm
    exact ⟨start, rest, rfl, hstart⟩
  · rintro ⟨start, rest, rfl, rfl⟩
    exact ⟨rest.map Ascii.lowerChar, List.map_append.symm⟩

/-- Any spelling of a text of ASCII has a byte for each character. -/
theorem length_ofChars_of_lower {start scheme : List Char} (hscheme : ∀ c ∈ scheme, c.toNat < 0x80)
    (h : start.map Ascii.lowerChar = scheme) : (ofChars start).length = scheme.length := by
  have hascii : ∀ c ∈ start, c.toNat < 0x80 := fun c hc =>
    Ascii.lt_of_lowerChar_lt (hscheme _ (h ▸ List.mem_map_of_mem hc))
  rw [Utf8.ofChars_of_ascii hascii, ← h, List.length_map, List.length_map]

/-- A cut after so many bytes leaves every scheme whole that is no longer. -/
theorem isPrefixOf_lower_cut {scheme text : List Char} {n : Nat}
    (hscheme : ∀ c ∈ scheme, c.toNat < 0x80) (hn : scheme.length ≤ n) :
    scheme.isPrefixOf (((Utf8.front? n text).getD text).map Ascii.lowerChar) =
      scheme.isPrefixOf (text.map Ascii.lowerChar) := by
  cases hfront : Utf8.front? n text with
  | none => rfl
  | some front =>
    obtain ⟨rest, rfl, hlength⟩ := Utf8.front?_eq_some.mp hfront
    rw [Option.getD_some, Bool.eq_iff_iff, isPrefixOf_lower, isPrefixOf_lower]
    constructor
    · rintro ⟨start, more, rfl, hstart⟩
      exact ⟨start, more ++ rest, List.append_assoc start more rest, hstart⟩
    · rintro ⟨start, more, htext, hstart⟩
      have hbytes := length_ofChars_of_lower hscheme hstart
      rcases List.append_eq_append_iff.mp htext with ⟨beyond, rfl, -⟩ | ⟨within, rfl, -⟩
      · -- The scheme would be longer than the cut, unless nothing of it is beyond.
        have hbeyond : beyond = [] := by
          rcases beyond with _ | ⟨c, beyond⟩
          · rfl
          · have hc := c.utf8Size_pos
            simp at hbytes
            omega
        subst hbeyond
        exact ⟨front, [], (List.append_nil front).symm, by simpa using hstart⟩
      · exact ⟨start, within, rfl, hstart⟩

/-- The cut does not matter. -/
theorem isAbsolute_iff_lower {url : String} : isAbsolute url = true ↔
    ∃ scheme ∈ ["http://", "https://"],
      scheme.toList.isPrefixOf (url.toList.map Ascii.lowerChar) = true := by
  have hascii : ∀ scheme ∈ ["http://", "https://"], (∀ c ∈ scheme.toList, c.toNat < 0x80) ∧
      scheme.toList.length ≤ 8 := by
    intro scheme hscheme
    rcases List.mem_pair.mp hscheme with rfl | rfl <;> simp
  have hhttp := hascii "http://" (by simp)
  have hhttps := hascii "https://" (by simp)
  simp only [isAbsolute, isPrefixOf_lower_cut hhttp.1 hhttp.2,
    isPrefixOf_lower_cut hhttps.1 hhttps.2, Bool.or_eq_true]
  simp

/-- A URL is absolute if it begins with one of the two schemes in any case, and only then. -/
theorem isAbsolute_iff {url : String} : isAbsolute url = true ↔ ∃ scheme ∈ ["http://", "https://"],
    ∃ start rest, url = start ++ rest ∧ Ascii.sameIgnoringCase start scheme = true := by
  have hlower : ∀ scheme ∈ ["http://", "https://"], Ascii.lower scheme = scheme := by decide
  rw [isAbsolute_iff_lower]
  refine exists_congr fun scheme => and_congr_right fun hscheme => ?_
  rw [isPrefixOf_lower]
  constructor
  · rintro ⟨start, rest, hurl, hstart⟩
    refine ⟨String.ofList start, String.ofList rest, ?_, ?_⟩
    · rw [← String.ofList_append, ← hurl, String.ofList_toList]
    · rw [Ascii.sameIgnoringCase, beq_iff_eq, hlower scheme hscheme, Ascii.lower,
        String.toList_ofList, hstart, String.ofList_toList]
  · rintro ⟨start, rest, rfl, hstart⟩
    rw [Ascii.sameIgnoringCase, hlower scheme hscheme, beq_iff_eq] at hstart
    exact ⟨start.toList, rest.toList,
      String.toList_append, by rw [← hstart, Ascii.lower, String.toList_ofList]⟩

/-! ## Slashes -/

/-- So many slashes. -/
def slashes (n : Nat) : String := String.ofList (List.replicate n '/')

theorem dropWhile_slashes {rest : List Char} (h : rest.head? ≠ some '/') (n : Nat) :
    (List.replicate n '/' ++ rest).dropWhile (· = '/') = rest := by
  rw [List.dropWhile_append_of_pos (by simp)]
  rcases rest with _ | ⟨c, rest⟩
  · rfl
  · have hc : c ≠ '/' := by simpa using h
    simp [hc]

/-- Every text is what follows the slashes at its front. -/
theorem exists_slashes (text : List Char) :
    ∃ n rest, text = List.replicate n '/' ++ rest ∧ rest.head? ≠ some '/' := by
  induction text with
  | nil => exact ⟨0, [], rfl, by simp⟩
  | cons c text ih =>
    by_cases hc : c = '/'
    · obtain ⟨n, rest, rfl, hrest⟩ := ih
      exact ⟨n + 1, rest, by simp [hc, List.replicate_succ], hrest⟩
    · exact ⟨0, c :: text, rfl, by simpa using hc⟩

/-- A slash begins no scheme. -/
theorem isAbsolute_slashes {url : String} (h : isAbsolute url = false) (n : Nat) :
    isAbsolute (slashes n ++ url) = false := by
  rcases n with _ | n
  · simpa [slashes] using h
  · rw [Bool.eq_false_iff, ne_eq, isAbsolute_iff_lower]
    have hslash : Ascii.lowerChar '/' = '/' := by decide
    simp [slashes, List.replicate_succ, hslash]

/-! ## URLs under a base -/

/-- What a URL under a base is put together from. -/
theorem underBase_slashes {b u : String} {m n : Nat} (hb : b.toList.getLast? ≠ some '/')
    (hu : u.toList.head? ≠ some '/') (hbase : b ++ slashes m ≠ "")
    (hurl : isAbsolute (slashes n ++ u) = false) :
    underBase (b ++ slashes m) (slashes n ++ u) = b ++ "/" ++ u := by
  have hempty : (b ++ slashes m).isEmpty = false := by simpa using hbase
  have hfront : ((b ++ slashes m).toList.reverse.dropWhile (· = '/')).reverse = b.toList := by
    have hlast : b.toList.reverse.head? ≠ some '/' := by rwa [List.head?_reverse]
    simp only [slashes, String.toList_append, String.toList_ofList, List.reverse_append,
      List.reverse_replicate]
    rw [dropWhile_slashes hlast, List.reverse_reverse]
  have hback : (slashes n ++ u).toList.dropWhile (· = '/') = u.toList := by
    simp only [slashes, String.toList_append, String.toList_ofList]
    exact dropWhile_slashes hu n
  simp only [underBase, hempty, hurl, Bool.or_false, Bool.false_eq_true, if_false, hfront, hback]
  rw [String.ofList_append, String.ofList_append, String.ofList_toList, String.ofList_toList]

theorem slashes_add (m n : Nat) : slashes (m + n) = slashes m ++ slashes n := by
  rw [slashes, List.replicate_add, String.ofList_append]
  rfl

/-- A URL is absolute if it begins with one of the schemes in any case. It stands for itself then,
and where there is no base. Any other is joined to the base by one slash, however many stood at
either side. -/
theorem underBase_joins :
    (∀ url, isAbsolute url = true ↔
      ∃ scheme ∈ ["http://", "https://"], ∃ start rest, url = start ++ rest ∧
      Ascii.sameIgnoringCase start scheme = true) ∧
    (∀ base url, base = "" ∨ isAbsolute url = true → underBase base url = url) ∧
    ∀ base url, base ≠ "" → isAbsolute url = false →
      (∃ b u m n, base = b ++ slashes m ∧ url = slashes n ++ u ∧ b.toList.getLast? ≠ some '/' ∧
        u.toList.head? ≠ some '/' ∧ underBase base url = b ++ "/" ++ u) ∧
      ∀ m n, underBase (base ++ slashes m) (slashes n ++ url) = underBase base url := by
  refine ⟨fun url => isAbsolute_iff, fun base url h => ?_, fun base url hbase hurl => ?_⟩
  · rcases h with rfl | h <;> simp [underBase, *]
  obtain ⟨m, back, hback, hlast⟩ := exists_slashes base.toList.reverse
  obtain ⟨n, front, hfront, hhead⟩ := exists_slashes url.toList
  obtain ⟨b, hb, rfl⟩ : ∃ b : String, b.toList.getLast? ≠ some '/' ∧ base = b ++ slashes m := by
    refine ⟨String.ofList back.reverse, by simpa using hlast, ?_⟩
    have hlist : base.toList = back.reverse ++ List.replicate m '/' := by
      rw [← List.reverse_reverse base.toList, hback, List.reverse_append, List.reverse_replicate]
    rw [slashes, ← String.ofList_append, ← hlist, String.ofList_toList]
  obtain ⟨u, hu, rfl⟩ : ∃ u : String, u.toList.head? ≠ some '/' ∧ url = slashes n ++ u := by
    refine ⟨String.ofList front, by simpa using hhead, ?_⟩
    rw [slashes, ← String.ofList_append, ← hfront, String.ofList_toList]
  have hjoined := underBase_slashes hb hu hbase hurl
  refine ⟨⟨b, u, m, n, rfl, rfl, hb, hu, hjoined⟩, fun m' n' => ?_⟩
  have hbehind : b ++ slashes m ++ slashes m' = b ++ slashes (m + m') := by
    rw [slashes_add, String.append_assoc]
  have hbefore : slashes n' ++ (slashes n ++ u) = slashes (n' + n) ++ u := by
    rw [slashes_add, String.append_assoc]
  have hbase' : b ++ slashes (m + m') ≠ "" := by
    rw [← hbehind]
    exact fun h => hbase (String.append_eq_empty_iff.mp h).1
  have hurl' : isAbsolute (slashes (n' + n) ++ u) = false := hbefore ▸ isAbsolute_slashes hurl n'
  rw [hjoined, hbehind, hbefore]
  exact underBase_slashes hb hu hbase' hurl'

/-- Eight bytes end within the last character of `HTTP://é`, which is absolute, and just before that
of `https:/é`, which is not. The base `//` is nothing but slashes. -/
theorem underBase_joins_cut :
    ((∃ scheme ∈ ["http://", "https://"], ∃ start rest, "HTTP://é" = start ++ rest ∧
        Ascii.sameIgnoringCase start scheme = true) ∧ underBase "//" "HTTP://é" = "HTTP://é") ∧
    "//" ≠ "" ∧ isAbsolute "https:/é" = false ∧ underBase ("//" ++ slashes 1)
      (slashes 2 ++ "https:/é") = "/https:/é" := by
  have habsolute : isAbsolute "HTTP://é" = true := by decide +kernel
  have hrelative : isAbsolute "https:/é" = false := by decide +kernel
  have hbase : "//" ≠ "" := by decide
  obtain ⟨hscheme, hself, hjoined⟩ := underBase_joins
  refine ⟨⟨(hscheme _).mp habsolute, hself _ _ (.inr habsolute)⟩, hbase, hrelative, ?_⟩
  exact ((hjoined _ _ hbase hrelative).2 1 2).trans (by decide +kernel)

end Url

end Courier
