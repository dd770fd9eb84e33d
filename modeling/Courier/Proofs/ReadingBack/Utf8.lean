import Courier.Text.Utf8
/-
Text that was written as UTF-8 is read back as it was, by the strict reading
and by the lossy one (`Utf8.decode?_encode`, `Utf8.decodeLossy_encode`): the
bytes of a character are one piece, whatever stands after them
(`Utf8.piecesFrom_utf8EncodeChar`).

The bytes of a character beyond ASCII are all beyond ASCII
(`Utf8.le_of_mem_utf8EncodeChar`), so a reader that looks for ASCII only never
stops inside a character.
-/
namespace Courier.Utf8

/-! ## The bytes of a text -/

/-- The bytes of a list of characters. -/
def ofChars (cs : List Char) : Bytes := cs.flatMap String.utf8EncodeChar

theorem encode_ofList (cs : List Char) : encode (String.ofList cs) = ofChars cs := by
  rw [encode, String.toList_ofList, ofChars]

theorem encode_append (s t : String) : encode (s ++ t) = encode s ++ encode t := by
  rw [encode, String.toList_append, List.flatMap_append]
  rfl

@[simp] theorem ofChars_nil : ofChars [] = [] := rfl

@[simp] theorem ofChars_cons (c : Char) (cs : List Char) :
    ofChars (c :: cs) = String.utf8EncodeChar c ++ ofChars cs := List.flatMap_cons

@[simp] theorem ofChars_append (cs ds : List Char) :
    ofChars (cs ++ ds) = ofChars cs ++ ofChars ds :=
  List.flatMap_append

theorem ofChars_flatMap {α : Type} (f : α → List Char) (l : List α) :
    ofChars (l.flatMap f) = l.flatMap fun a => ofChars (f a) := List.flatMap_assoc

/-- A character of ASCII is one byte. -/
theorem utf8EncodeChar_of_lt {c : Char} (h : c.toNat < 0x80) :
    String.utf8EncodeChar c = [UInt8.ofNat c.toNat] := by
  have hle : c.val.toNat ≤ 0x7F := Nat.le_of_lt_succ h
  simp only [String.utf8EncodeChar, if_pos hle]
  rfl

theorem ofChars_of_ascii {cs : List Char} (h : ∀ c ∈ cs, c.toNat < 0x80) :
    ofChars cs = cs.map fun c => UInt8.ofNat c.toNat := by
  induction cs with
  | nil => rfl
  | cons c cs ih =>
    rw [ofChars_cons, utf8EncodeChar_of_lt (h c List.mem_cons_self),
      ih fun d hd => h d (List.mem_cons_of_mem c hd)]
    rfl

theorem toNat_charOfNat {n : Nat} (h : n < 0xD800) : (Char.ofNat n).toNat = n := by
  have hvalid : n.isValidChar := .inl h
  rw [Char.ofNat, dif_pos hvalid]
  rfl

theorem toNat_ofNat_of_lt {n : Nat} (h : n < 256) : (UInt8.ofNat n).toNat = n := by
  rw [UInt8.toNat_ofNat']
  omega

/-- The character of a byte of ASCII is written as that byte. -/
theorem ofChars_byte {b : UInt8} (h : b.toNat < 0x80) : ofChars [Char.ofNat b.toNat] = [b] := by
  have hnum : (Char.ofNat b.toNat).toNat = b.toNat := toNat_charOfNat (by omega)
  rw [ofChars_of_ascii (by simpa [hnum] using h), List.map_cons, hnum,
    UInt8.ofNat_toNat, List.map_nil]

theorem le_of_mem_utf8EncodeChar {c : Char} (h : 0x80 ≤ c.toNat) {b : UInt8}
    (hb : b ∈ String.utf8EncodeChar c) : 0x80 ≤ b.toNat := by
  have hval : c.val.toNat = c.toNat := rfl
  unfold String.utf8EncodeChar at hb
  rw [hval, if_neg (by omega)] at hb
  split at hb
  · simp only [List.mem_cons, List.not_mem_nil, or_false] at hb
    obtain rfl | rfl := hb <;> rw [toNat_ofNat_of_lt (by omega)] <;> omega
  split at hb
  · simp only [List.mem_cons, List.not_mem_nil, or_false] at hb
    obtain rfl | rfl | rfl := hb <;> rw [toNat_ofNat_of_lt (by omega)] <;> omega
  · simp only [List.mem_cons, List.not_mem_nil, or_false] at hb
    obtain rfl | rfl | rfl | rfl := hb <;> rw [toNat_ofNat_of_lt (by omega)] <;> omega

/-- A byte of ASCII in a text is a character of the text. -/
theorem mem_of_mem_encode {s : String} {c : Char} (hc : c.toNat < 0x80)
    (h : UInt8.ofNat c.toNat ∈ encode s) :
    c ∈ s.toList := by
  have hnum : (UInt8.ofNat c.toNat).toNat = c.toNat := toNat_ofNat_of_lt (by omega)
  obtain ⟨d, hd, hmem⟩ := List.mem_flatMap.mp h
  by_cases hascii : d.toNat < 0x80
  · rw [utf8EncodeChar_of_lt hascii, List.mem_singleton] at hmem
    have hsame : c.toNat = d.toNat := by
      rw [← hnum, hmem, toNat_ofNat_of_lt (by omega)]
    rwa [← Char.ofNat_toNat c, hsame, Char.ofNat_toNat d]
  · have hbeyond := le_of_mem_utf8EncodeChar (Nat.le_of_not_lt hascii) hmem
    omega

/-! ## Pieces -/

theorem piecesFrom_char {b : UInt8} {c : Char} (h : lead b = .char c) (rest : Bytes) :
    piecesFrom none (b :: rest) = some c :: piecesFrom none rest := by
  rw [piecesFrom, h]

theorem piecesFrom_opens {b : UInt8} {u : Unfinished} (h : lead b = .opens u) (rest : Bytes) :
    piecesFrom none (b :: rest) = piecesFrom (some u) rest := by
  rw [piecesFrom, h]

/-- A byte within the bounds goes on with an unfinished character. -/
theorem piecesFrom_more {u : Unfinished} {b : UInt8} (hlow : u.low ≤ b) (hhigh : b ≤ u.high)
    (howed : 1 < u.owed) (rest : Bytes) : piecesFrom (some u) (b :: rest) =
      piecesFrom (some ⟨u.owed - 1, u.bits * 64 + b.toNat % 64, 0x80, 0xBF⟩) rest := by
  simp only [piecesFrom, hlow, hhigh, decide_true, Bool.and_true, if_true,
    if_neg (Nat.not_le_of_lt howed)]

/-- The last byte of an unfinished character. -/
theorem piecesFrom_last {u : Unfinished} {b : UInt8} (hlow : u.low ≤ b) (hhigh : b ≤ u.high)
    (howed : u.owed = 1) (rest : Bytes) : piecesFrom (some u) (b :: rest) =
      some (Char.ofNat (u.bits * 64 + b.toNat % 64)) :: piecesFrom none rest := by
  simp only [piecesFrom, hlow, hhigh, decide_true, Bool.and_true, if_true, howed, Nat.le_refl]

/-- What a byte given by its number is at the start of a piece. -/
theorem lead_ofNat {n : Nat} (h : n < 256) : lead (UInt8.ofNat n) =
    if n < 0x80 then .char (Char.ofNat n)
    else if n < 0xC2 then .broken
    else if n < 0xE0 then .opens ⟨1, n % 32, 0x80, 0xBF⟩
    else if n < 0xF0 then
      .opens ⟨2, n % 16, if n = 0xE0 then 0xA0 else 0x80, if n = 0xED then 0x9F else 0xBF⟩
    else if n < 0xF5 then
      .opens ⟨3, n % 8, if n = 0xF0 then 0x90 else 0x80, if n = 0xF4 then 0x8F else 0xBF⟩
    else .broken := by
  have hn := toNat_ofNat_of_lt h
  simp only [lead, UInt8.lt_iff_toNat_lt, ← UInt8.toNat_inj, hn]
  rfl

/-- A byte that continues a character, between bounds that it keeps. -/
theorem within_ofNat (low high : UInt8) {n : Nat} (h : n < 64) (hlow : low.toNat ≤ n + 0x80)
    (hhigh : n + 0x80 ≤ high.toNat) : low ≤ UInt8.ofNat (n + 0x80) ∧ UInt8.ofNat (n + 0x80) ≤ high ∧
      (UInt8.ofNat (n + 0x80)).toNat % 64 = n := by
  have hn := toNat_ofNat_of_lt (n := n + 0x80) (by omega)
  refine ⟨?_, ?_, by omega⟩ <;> rw [UInt8.le_iff_toNat_le, hn] <;> assumption

/-- Any byte that continues a character, where the character does not narrow the bounds. -/
theorem tail_ofNat {n : Nat} (h : n < 64) : 0x80 ≤ UInt8.ofNat (n + 0x80) ∧
    UInt8.ofNat (n + 0x80) ≤ 0xBF ∧ (UInt8.ofNat (n + 0x80)).toNat % 64 = n :=
  within_ofNat 0x80 0xBF h (Nat.le_add_left 0x80 n) (show n + 128 ≤ 191 by omega)

/-- The bytes of a character are read as that character, whatever follows them. -/
theorem piecesFrom_utf8EncodeChar (c : Char) (rest : Bytes) :
    piecesFrom none (String.utf8EncodeChar c ++ rest) = some c :: piecesFrom none rest := by
  obtain ⟨v, hv⟩ : ∃ v, v = c.val.toNat := ⟨_, rfl⟩
  have hc : Char.ofNat v = c := by
    rw [hv]
    exact Char.ofNat_toNat c
  have hvalid : v < 0xD800 ∨ 0xDFFF < v ∧ v < 0x110000 := hv ▸ c.valid
  simp only [String.utf8EncodeChar, ← hv]
  split
  · have hlead : lead (UInt8.ofNat v) = .char c := by
      rw [lead_ofNat (by omega), if_pos (by omega), hc]
    exact piecesFrom_char hlead rest
  split
  · have hlead : lead (UInt8.ofNat (v / 64 % 32 + 0xC0)) = .opens ⟨1, v / 64, 0x80, 0xBF⟩ := by
      rw [lead_ofNat (by omega), if_neg (by omega), if_neg (by omega), if_pos (by omega)]
      congr
      omega
    obtain ⟨hlow, hhigh, hbits⟩ := tail_ofNat (n := v % 64) (by omega)
    have hcode : v / 64 * 64 + v % 64 = v := by omega
    simp only [List.cons_append, List.nil_append]
    rw [piecesFrom_opens hlead, piecesFrom_last hlow hhigh rfl, hbits, hcode, hc]
  split
  -- The second byte is held to narrower bounds after 0xE0 and 0xED.
  · have hlead : lead (UInt8.ofNat (v / 4096 % 16 + 0xE0)) = .opens ⟨2, v / 4096,
        if v / 4096 = 0 then 0xA0 else 0x80, if v / 4096 = 13 then 0x9F else 0xBF⟩ := by
      have hbits : (v / 4096 % 16 + 0xE0) % 16 = v / 4096 := by omega
      have hfirst : v / 4096 % 16 + 0xE0 = 0xE0 ↔ v / 4096 = 0 := by omega
      have hsurrogate : v / 4096 % 16 + 0xE0 = 0xED ↔ v / 4096 = 13 := by omega
      rw [lead_ofNat (by omega), if_neg (by omega), if_neg (by omega), if_neg (by omega),
        if_pos (by omega), hbits]
      simp only [hfirst, hsurrogate]
    obtain ⟨hlow, hhigh, hbits⟩ := within_ofNat (if v / 4096 = 0 then 0xA0 else 0x80)
      (if v / 4096 = 13 then 0x9F else 0xBF) (n := v / 64 % 64) (by omega)
      (by split <;> simp; omega) (by split <;> simp <;> omega)
    obtain ⟨hlow', hhigh', hbits'⟩ := tail_ofNat (n := v % 64) (by omega)
    have hcode : (v / 4096 * 64 + v / 64 % 64) * 64 + v % 64 = v := by omega
    simp only [List.cons_append, List.nil_append]
    rw [piecesFrom_opens hlead, piecesFrom_more hlow hhigh (Nat.lt_succ_self 1), hbits,
      piecesFrom_last hlow' hhigh' rfl, hbits', hcode, hc]
  -- And after 0xF0 and 0xF4.
  · have hlead : lead (UInt8.ofNat (v / 262144 % 8 + 0xF0)) = .opens ⟨3, v / 262144,
        if v / 262144 = 0 then 0x90 else 0x80, if v / 262144 = 4 then 0x8F else 0xBF⟩ := by
      have hbits : (v / 262144 % 8 + 0xF0) % 8 = v / 262144 := by omega
      have hfirst : v / 262144 % 8 + 0xF0 = 0xF0 ↔ v / 262144 = 0 := by omega
      have hlast : v / 262144 % 8 + 0xF0 = 0xF4 ↔ v / 262144 = 4 := by omega
      rw [lead_ofNat (by omega), if_neg (by omega), if_neg (by omega), if_neg (by omega),
        if_neg (by omega), if_pos (by omega), hbits]
      simp only [hfirst, hlast]
    obtain ⟨hlow, hhigh, hbits⟩ := within_ofNat (if v / 262144 = 0 then 0x90 else 0x80)
      (if v / 262144 = 4 then 0x8F else 0xBF) (n := v / 4096 % 64) (by omega)
      (by split <;> simp; omega) (by split <;> simp <;> omega)
    obtain ⟨hlow', hhigh', hbits'⟩ := tail_ofNat (n := v / 64 % 64) (by omega)
    obtain ⟨hlow'', hhigh'', hbits''⟩ := tail_ofNat (n := v % 64) (by omega)
    have hcode : ((v / 262144 * 64 + v / 4096 % 64) * 64 + v / 64 % 64) * 64 + v % 64 = v := by
      omega
    simp only [List.cons_append, List.nil_append]
    rw [piecesFrom_opens hlead, piecesFrom_more hlow hhigh (Nat.lt_succ_of_lt (Nat.lt_succ_self 1)),
      hbits, piecesFrom_more hlow' hhigh' (Nat.lt_succ_self 1), hbits',
      piecesFrom_last hlow'' hhigh'' rfl, hbits'', hcode, hc]

theorem pieces_ofChars (cs : List Char) : pieces (ofChars cs) = cs.map some := by
  unfold pieces
  induction cs with
  | nil => rfl
  | cons c cs ih => rw [ofChars_cons, piecesFrom_utf8EncodeChar, ih, List.map_cons]

theorem getD_pieces_encode (s : String) :
    (pieces (encode s)).map (·.getD replacement) = s.toList := by
  rw [encode, ← ofChars, pieces_ofChars, List.map_map]
  exact List.map_id s.toList

theorem decodeLossy_encode (s : String) : decodeLossy (encode s) = s := by
  rw [decodeLossy, getD_pieces_encode, String.ofList_toList]

theorem decode?_encode (s : String) : decode? (encode s) = some s := by
  have hall : (pieces (encode s)).all Option.isSome = true := by
    rw [encode, ← ofChars, pieces_ofChars]
    simp
  simp only [decode?, hall, if_true, getD_pieces_encode, String.ofList_toList]

end Courier.Utf8
