import Courier.Proofs.ReadingBack.Utf8
import Courier.Url.Query
/-
Form-encoded text is read back as the pairs that were written
(`Form.read_write`), in whatever text it stands between ampersands
(`Form.read_append`). So the query of a URL is what it was and what was
appended to it (`Url.queryPairs_appendQuery`), and the pairs of a value are
those of the strict flattening (`Form.queryPairs_eq_pairs`).

What a byte is written as holds neither of the two separators
(`Form.codes_ne_separator`) and is read back as that byte, whatever follows
(`Form.decode_codes`).
-/
namespace Courier

/-! ## Splitting -/

namespace Split

variable {α : Type} [DecidableEq α] {separator : α}

theorem segments_of_not_mem {l : List α} (h : separator ∉ l) : segments separator l = [l] := by
  induction l with
  | nil => rfl
  | cons a rest ih =>
    obtain ⟨hne, hrest⟩ := not_or.mp (mt List.mem_cons.mpr h)
    rw [segments, if_neg (Ne.symm hne), ih hrest]

/-- The segments of two texts with the separator between them. -/
theorem segments_append (separator : α) (l l' : List α) :
    segments separator (l ++ separator :: l') = segments separator l ++ segments separator l' := by
  induction l with
  | nil => simp [segments]
  | cons a rest ih =>
    rw [List.cons_append, segments, segments, ih]
    split
    · rfl
    · cases hs : segments separator rest with
      | nil => exact absurd hs (segments_ne_nil separator rest)
      | cons first others => rfl

theorem segments_join {pieces : List (List α)} (hne : pieces ≠ [])
    (h : ∀ p ∈ pieces, separator ∉ p) :
    segments separator (join [separator] pieces) = pieces := by
  induction pieces with
  | nil => exact absurd rfl hne
  | cons p rest ih =>
    have hp : separator ∉ p := h p List.mem_cons_self
    cases rest with
    | nil => exact segments_of_not_mem hp
    | cons q more =>
      have hrest := ih (List.cons_ne_nil q more) fun p' hp' => h p' (List.mem_cons_of_mem p hp')
      rw [join, List.append_assoc, List.singleton_append, segments_append,
        segments_of_not_mem hp, hrest]
      · rfl
      · exact List.cons_ne_nil q more

theorem once?_append {l : List α} (h : separator ∉ l) (l' : List α) :
    once? separator (l ++ separator :: l') = some (l, l') := by
  induction l with
  | nil => simp [once?]
  | cons a rest ih =>
    obtain ⟨hne, hrest⟩ := not_or.mp (mt List.mem_cons.mpr h)
    rw [List.cons_append, once?, if_neg (Ne.symm hne), ih hrest]
    rfl

end Split

theorem Utf8.ofChars_join (separator : List Char) (segments : List (List Char)) :
    Utf8.ofChars (Split.join separator segments) =
      Split.join (Utf8.ofChars separator) (segments.map Utf8.ofChars) := by
  induction segments with
  | nil => rfl
  | cons segment others ih =>
    cases others with
    | nil => rfl
    | cons second more =>
      rw [Split.join, Utf8.ofChars_append, Utf8.ofChars_append, ih]
      · rfl
      · exact List.cons_ne_nil second more

/-! ## Escapes -/

namespace Percent

theorem hexByte?_hexUpper :
    ∀ n < 16, hexByte? (UInt8.ofNat (Ascii.hexUpper n).toNat) = some n := by decide

theorem escape_plain {n : Nat} (hn : n < 256) {c : Char} (hc : c ∈ escape (UInt8.ofNat n)) :
    c.toNat < 0x80 ∧ UInt8.ofNat c.toNat ≠ 0x2B := by
  have hall : ∀ n < 256, (escape (UInt8.ofNat n)).all
      (fun c => c.toNat < 0x80 && UInt8.ofNat c.toNat != 0x2B) = true := by decide +kernel
  simpa using List.all_eq_true.mp (hall n hn) c hc

/-- Only a percent sign starts an escape. -/
theorem decode_cons_of_ne {b : UInt8} (h : b ≠ 0x25) (rest : Bytes) :
    decode (b :: rest) = b :: decode rest := by
  rw [decode]
  rintro a b' rest' rfl
  exact absurd rfl h

/-- The escape of a byte is read as that byte. -/
theorem decode_escape (b : UInt8) (rest : Bytes) :
    decode ((escape b).map (fun c => UInt8.ofNat c.toNat) ++ rest) = b :: decode rest := by
  have hb : b.toNat < 256 := b.toNat_lt
  have hhigh := hexByte?_hexUpper (b.toNat / 16) (by omega)
  have hlow := hexByte?_hexUpper (b.toNat % 16) (by omega)
  have hpercent : UInt8.ofNat '%'.toNat = 0x25 := rfl
  have hvalue : b.toNat / 16 * 16 + b.toNat % 16 = b.toNat := by omega
  simp only [escape, List.map_cons, List.map_nil, List.cons_append, List.nil_append, hpercent]
  rw [decode, hhigh, hlow]
  simp only [hvalue, UInt8.ofNat_toNat]

end Percent

namespace Form

/-! ## Names and values -/

/-- What a byte is written as, in bytes. -/
def codes (b : UInt8) : Bytes := Utf8.ofChars (encodeByte b)

/-- A byte as it is read before escapes are. -/
def unplus (b : UInt8) : UInt8 := if b = 0x2B then 0x20 else b

theorem ofChars_encode (s : String) : Utf8.ofChars (encode s) = (Utf8.encode s).flatMap codes :=
  Utf8.ofChars_flatMap encodeByte (Utf8.encode s)

theorem keeps_plain : ∀ n < 256, keeps (UInt8.ofNat n) = true → n < 0x80 ∧ n ≠ 0x25 ∧ n ≠ 0x2B := by
  decide +kernel

theorem codes_ne_separator (b : UInt8) : 0x26 ∉ codes b ∧ 0x3D ∉ codes b := by
  have hall : ∀ n < 256, 0x26 ∉ codes (UInt8.ofNat n) ∧ 0x3D ∉ codes (UInt8.ofNat n) := by
    decide +kernel
  have h := hall b.toNat b.toNat_lt
  rwa [UInt8.ofNat_toNat] at h

/-- What a byte is written as is read as that byte. -/
theorem decode_codes (b : UInt8) (rest : Bytes) :
    Percent.decode ((codes b).map unplus ++ rest) = b :: Percent.decode rest := by
  have hb := b.toNat_lt
  unfold codes encodeByte
  split
  · next hblank =>
    rw [hblank]
    exact Percent.decode_cons_of_ne (by decide) rest
  split
  · next hkeeps =>
    obtain ⟨hascii, hpercent, hplus⟩ := keeps_plain b.toNat hb (by rwa [UInt8.ofNat_toNat])
    have hunplus : unplus b = b := if_neg fun heq => hplus (congrArg UInt8.toNat heq)
    rw [Utf8.ofChars_byte hascii, List.map_cons, List.map_nil, hunplus]
    exact Percent.decode_cons_of_ne (fun heq => hpercent (congrArg UInt8.toNat heq)) rest
  · have hplain {c : Char} (hc : c ∈ Percent.escape b) : c.toNat < 0x80 ∧
        UInt8.ofNat c.toNat ≠ 0x2B :=
      Percent.escape_plain hb (by rwa [UInt8.ofNat_toNat])
    have hunplus : ((Percent.escape b).map fun c => UInt8.ofNat c.toNat).map unplus =
        (Percent.escape b).map fun c => UInt8.ofNat c.toNat := by
      rw [List.map_map]
      exact List.map_congr_left fun c hc => if_neg (hplain hc).2
    rw [Utf8.ofChars_of_ascii fun c hc => (hplain hc).1, hunplus]
    exact Percent.decode_escape b rest

/-- A name or value is read as it was written. -/
theorem decode_encode (s : String) : decode (Utf8.ofChars (encode s)) = s := by
  have hbytes (bytes : Bytes) : Percent.decode ((bytes.flatMap codes).map unplus) = bytes := by
    induction bytes with
    | nil => rfl
    | cons b bytes ih => rw [List.flatMap_cons, List.map_append, decode_codes, ih]
  rw [ofChars_encode]
  exact (congrArg Utf8.decodeLossy (hbytes (Utf8.encode s))).trans (Utf8.decodeLossy_encode s)

/-! ## Pairs -/

theorem encode_ne_separator (s : String) :
    0x26 ∉ Utf8.ofChars (encode s) ∧ 0x3D ∉ Utf8.ofChars (encode s) := by
  simp only [ofChars_encode, List.mem_flatMap, not_exists, not_and]
  exact ⟨fun b _ => (codes_ne_separator b).1, fun b _ => (codes_ne_separator b).2⟩

theorem ofChars_writePair (pair : String × String) : Utf8.ofChars (writePair pair) =
    Utf8.ofChars (encode pair.1) ++ 0x3D :: Utf8.ofChars (encode pair.2) := by
  rw [writePair, Utf8.ofChars_append, Utf8.ofChars_append, List.append_assoc]
  rfl

theorem readPair_writePair (pair : String × String) :
    readPair (Utf8.ofChars (writePair pair)) = pair := by
  rw [ofChars_writePair, readPair, Split.once?_append (encode_ne_separator pair.1).2]
  simp only [decode_encode]

theorem writePair_ne_separator (pair : String × String) : 0x26 ∉ Utf8.ofChars (writePair pair) := by
  rw [ofChars_writePair, List.mem_append, List.mem_cons]
  rintro (h | h | h)
  · exact (encode_ne_separator pair.1).1 h
  · exact absurd h (by decide)
  · exact (encode_ne_separator pair.2).1 h

theorem isEmpty_writePair (pair : String × String) :
    (Utf8.ofChars (writePair pair)).isEmpty = false := by
  rw [ofChars_writePair]
  cases Utf8.ofChars (encode pair.1) <;> rfl

/-- The pairs of two texts with an ampersand between them. -/
theorem read_append (bytes bytes' : Bytes) :
    read (bytes ++ 0x26 :: bytes') = read bytes ++ read bytes' := by
  rw [read, Split.segments_append, List.filter_append, List.map_append]
  rfl

theorem read_ofChars_write (pairs : List (String × String)) :
    read (Utf8.ofChars (write pairs)) = pairs := by
  cases pairs with
  | nil => rfl
  | cons pair pairs =>
    have hjoin : Utf8.ofChars (write (pair :: pairs)) =
        Split.join [0x26] ((pair :: pairs).map fun p => Utf8.ofChars (writePair p)) := by
      rw [write, Utf8.ofChars_join, List.map_map]
      rfl
    rw [hjoin, read, Split.segments_join (by simp), List.filter_eq_self.mpr, List.map_map]
    · exact (List.map_congr_left fun p _ => readPair_writePair p).trans (List.map_id _)
    · intro piece hpiece
      obtain ⟨p, -, rfl⟩ := List.mem_map.mp hpiece
      rw [isEmpty_writePair]
      rfl
    · intro piece hpiece
      obtain ⟨p, -, rfl⟩ := List.mem_map.mp hpiece
      exact writePair_ne_separator p

/-- Form-encoded text is read as the pairs that were written. -/
theorem read_write (pairs : List (String × String)) :
    read (Utf8.encode (String.ofList (write pairs))) = pairs := by
  rw [Utf8.encode_ofList, read_ofChars_write]

/-- The pairs that are read back from the text of a value are those that it was flattened to. -/
theorem queryPairs_eq_pairs (value : Json) : queryPairs value = pairs value := by
  unfold queryPairs text
  cases pairs value with
  | error flaw => rfl
  | ok ps => exact congrArg Except.ok (read_write ps)

end Form

/-! ## Queries -/

/-- The query of a URL with pairs appended: what was there, and then the pairs. -/
theorem Url.queryPairs_appendQuery (u : Url) (pairs : List (String × String)) :
    (u.appendQuery pairs).queryPairs = u.queryPairs ++ pairs := by
  have hbase : u.queryPairs = Form.read (Utf8.encode (u.query.getD "")) := by
    unfold queryPairs
    cases u.query <;> rfl
  rw [hbase, appendQuery, queryPairs]
  simp only [Utf8.encode_append, Utf8.encode_ofList]
  split
  · next hempty =>
    rw [Bool.or_eq_true] at hempty
    rcases hempty with hnone | hnone
    · rw [String.isEmpty_iff.mp hnone]
      exact Form.read_ofChars_write pairs
    · rw [List.isEmpty_iff.mp hnone]
      simp [Form.write, Split.join, Utf8.encode]
  · have hamp : Utf8.encode "&" = [0x26] := by decide
    rw [hamp, List.append_assoc, List.singleton_append, Form.read_append, Form.read_ofChars_write]

end Courier
