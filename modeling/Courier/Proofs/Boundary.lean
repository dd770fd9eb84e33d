import Courier.Request
/-
Requests that are built from the same options differ in nothing but the
boundary between their parts (`Request.build_boundary`), and not at all if
they have none.

The boundary stands in two places, the media type and the body. The media type
is put over what the header fields said before, so putting another one over it
forgets the first (`Headers.insert_insert`), and it is one that a header may
have (`Multipart.check_mediaType`), so one boundary is refused no more than
another.
-/
namespace Courier

/-! ## Header fields -/

namespace Headers

theorem contains_insert (h : Headers) (name : String) (value : Bytes) :
    (h.insert name value).contains name = true := by
  unfold insert
  split
  · next hc =>
    obtain ⟨field, hmem, hname⟩ := List.any_eq_true.mp hc
    refine List.any_eq_true.mpr ⟨(name, [value]), List.mem_map.mpr ⟨field, hmem, ?_⟩, by simp⟩
    simp only [hname, if_true]
  · simp [contains]

/-- A value put over another one forgets it. -/
theorem insert_insert (h : Headers) (name : String) (value value' : Bytes) :
    (h.insert name value).insert name value' = h.insert name value' := by
  rw [insert, if_pos (contains_insert h name value)]
  by_cases hc : h.contains name = true
  · simp only [insert, hc, if_true, List.map_map, Headers.mk.injEq]
    refine List.map_congr_left fun field _ => ?_
    by_cases hname : field.1 = name <;> simp [hname]
  · have hother : ∀ field ∈ h.fields,
        (if field.1 == name then (name, [value']) else field) = field := by
      intro field hmem
      refine if_neg fun hname => hc (List.any_eq_true.mpr ⟨field, hmem, hname⟩)
    simp only [insert, hc, if_false, Bool.false_eq_true, List.map_append,
      List.map_cons, List.map_nil, beq_self_eq_true, if_true]
    rw [List.map_congr_left hother, List.map_id']

end Headers

/-! ## Boundaries -/

/-- A character of printable ASCII, blanks included. -/
def Ascii.isPrintable (c : Char) : Bool := 0x20 ≤ c.toNat && c.toNat < 0x7F

theorem Ascii.isPrintable_iff {c : Char} :
    isPrintable c = true ↔ 0x20 ≤ c.toNat ∧ c.toNat < 0x7F := by
  simp [isPrintable]

namespace Multipart

theorem mem_toDigits {n : Nat} {c : Char} (h : c ∈ Nat.toDigits 16 n) :
    c ∈ "0123456789abcdef".toList := by
  have hall : ∀ m < 16, Nat.digitChar m ∈ "0123456789abcdef".toList := by decide
  induction n using Nat.strongRecOn with
  | _ n ih =>
    by_cases hn : n < 16
    · rw [Nat.toDigits_of_lt_base hn] at h
      obtain rfl := List.mem_singleton.mp h
      exact hall n hn
    · rw [Nat.toDigits_of_base_le (by decide) (by omega)] at h
      obtain h | h := List.mem_append.mp h
      · exact ih (n / 16) (Nat.div_lt_self (by omega) (by decide)) h
      · obtain rfl := List.mem_singleton.mp h
        exact hall (n % 16) (Nat.mod_lt n (by decide))

/-- A printable ASCII character is a single byte, and that may stand in a header. -/
theorem isValueByte_utf8EncodeChar {c : Char} (h : Ascii.isPrintable c = true) :
    ∀ b ∈ String.utf8EncodeChar c, Header.isValueByte b = true := by
  obtain ⟨hlow, hhigh⟩ := Ascii.isPrintable_iff.mp h
  have hval : c.toNat = c.val.toNat := rfl
  have hsize : c.utf8Size = 1 := by
    rw [Char.utf8Size_eq_one_iff, UInt32.le_iff_toNat_le]
    have hbound : (127 : UInt32).toNat = 127 := rfl
    omega
  intro b hb
  rw [String.utf8EncodeChar_eq_singleton hsize, List.mem_singleton] at hb
  have hbyte : b.toNat = c.toNat := by
    rw [hb, UInt32.toNat_toUInt8, ← hval]
    omega
  have hspace : 0x20 ≤ b := by
    rw [UInt8.le_iff_toNat_le, hbyte]
    exact hlow
  have hdelete : b ≠ 0x7F := by
    intro hequal
    rw [hequal] at hbyte
    have hnat : (0x7F : UInt8).toNat = 0x7F := rfl
    omega
  simp [Header.isValueByte, hspace, hdelete]

theorem mem_hexDigits {width n : Nat} {c : Char} (h : c ∈ hexDigits width n) :
    c ∈ "0123456789abcdef".toList := by
  obtain h | h := List.mem_append.mp h
  · obtain rfl := List.eq_of_mem_replicate h
    decide
  · exact mem_toDigits h

/-- The characters of a media type that names a boundary. -/
theorem mem_mediaType {n : Stamp} {c : Char} (h : c ∈ (mediaType (boundary n)).toList) :
    c ∈ ("multipart/form-data; boundary=" ++ "VolleyBoundary" ++ "0123456789abcdef").toList := by
  unfold mediaType boundary at h
  rw [String.toList_append, String.toList_append, List.mem_append, List.mem_append] at h
  rw [String.toList_append, String.toList_append, List.mem_append, List.mem_append]
  obtain h | h | h := h
  · exact .inl (.inl h)
  · exact .inl (.inr h)
  · rw [String.toList_ofList, List.mem_append] at h
    exact .inr (h.elim mem_hexDigits mem_hexDigits)

theorem isPrintable_mediaType (n : Stamp) :
    (mediaType (boundary n)).toList.all Ascii.isPrintable = true := by
  have hall :
      ("multipart/form-data; boundary=" ++ "VolleyBoundary" ++ "0123456789abcdef").toList.all
      Ascii.isPrintable = true := by decide
  exact List.all_eq_true.mpr fun c hc => List.all_eq_true.mp hall c (mem_mediaType hc)

/-- Every byte of a media type that names a boundary may stand in a header. -/
theorem isValueByte_mediaType (n : Stamp) :
    ∀ b ∈ Utf8.encode (mediaType (boundary n)), Header.isValueByte b = true := by
  intro b hb
  rw [Utf8.encode, List.mem_flatMap] at hb
  obtain ⟨c, hc, hb⟩ := hb
  exact isValueByte_utf8EncodeChar (List.all_eq_true.mp (isPrintable_mediaType n) c hc) b hb

theorem check_mediaType (n : Stamp) : Header.check "content-type" (mediaType (boundary n)) =
    .ok ("content-type", Utf8.encode (mediaType (boundary n))) := by
  have hname : Header.name? "content-type" = some "content-type" := by decide
  have hvalue : Header.value? (mediaType (boundary n)) =
      some (Utf8.encode (mediaType (boundary n))) :=
    if_pos (List.all_eq_true.mpr (isValueByte_mediaType n))
  simp only [Header.check, hname, hvalue]

end Multipart

/-! ## Requests -/

namespace Request

/-- The request with another boundary between its parts, if it has any. -/
def withBoundary (boundary : String) (q : Request) : Request :=
  if q.options.multipart.isEmpty then q
  else { q with
    headers := q.headers.insert "content-type" (Utf8.encode (Multipart.mediaType boundary))
    body := Multipart.body boundary q.options.multipart }

theorem encodeBody_of_isEmpty {o : Options} (h : o.multipart.isEmpty = true)
    (boundary boundary' : String) (headers : Headers) :
    encodeBody boundary o headers = encodeBody boundary' o headers := by
  simp [encodeBody, h]

theorem encodeBody_of_parts {o : Options} (h : o.multipart.isEmpty = false) (n : Multipart.Stamp)
    (headers : Headers) :
    encodeBody (Multipart.boundary n) o headers =
      .ok (headers.insert "content-type" (Utf8.encode (Multipart.mediaType (Multipart.boundary n))),
        Multipart.body (Multipart.boundary n) o.multipart) := by
  have hput : putHeader headers "content-type" (Multipart.mediaType (Multipart.boundary n)) =
      .ok (headers.insert "content-type"
          (Utf8.encode (Multipart.mediaType (Multipart.boundary n)))) := by
    rw [putHeader, Multipart.check_mediaType]
  simp only [encodeBody, h, hput]
  rfl

/-- Without parts of a form the boundary does not matter. -/
theorem build_of_isEmpty {o : Options} (h : o.multipart.isEmpty = true)
    (boundary boundary' : String) (method : Method) (url : String) :
    build boundary method url o = build boundary' method url o := by
  simp only [build, buildWith, encodeBody_of_isEmpty h boundary boundary']

/-- From the same options the same request is built, whatever the boundary, or the same failure
comes of it. -/
theorem build_boundary (n k : Multipart.Stamp) (method : Method) (url : String) (o : Options) :
    build (Multipart.boundary k) method url o =
      (build (Multipart.boundary n) method url o).map (withBoundary (Multipart.boundary k)) := by
  unfold build buildWith
  cases (Url.parse url).mapError Failure.invalidUrl with
  | error f => rfl
  | ok parsed =>
    cases headersOf o with
    | error f => rfl
    | ok headers =>
      cases hparts : o.multipart.isEmpty with
      | true =>
        simp only [encodeBody_of_isEmpty hparts (Multipart.boundary k) (Multipart.boundary n),
          bind, Except.bind]
        cases encodeBody (Multipart.boundary n) o headers with
        | error f => rfl
        | ok encoded => simp [Except.map, withBoundary, hparts]
      | false =>
        simp only [encodeBody_of_parts hparts, bind, Except.bind, Except.map, withBoundary, hparts,
          Headers.insert_insert]
        rfl

/-! ## Requests that cannot be built -/

/-- If the steps fail, no connection is what failed. -/
def Offline {α : Type} (x : Except Failure α) : Prop := ∀ f, x = .error f → f.isConnection = false

theorem Offline.ok {α : Type} (a : α) : Offline (.ok a) := by simp [Offline]

theorem Offline.bind {α β : Type} {x : Except Failure α} {f : α → Except Failure β} (hx : Offline x)
    (hf : ∀ a, Offline (f a)) : Offline (x >>= f) := by
  intro failure h
  cases x with
  | error _ =>
    cases h
    exact hx failure rfl
  | ok a => exact hf a failure h

theorem offline_putHeader (headers : Headers) (name value : String) :
    Offline (putHeader headers name value) := by
  intro f h
  unfold putHeader at h
  split at h
  · cases h
  · cases h
    rfl

theorem offline_headersOf (o : Options) : Offline (headersOf o) := by
  have hfields (fields : List (String × String)) (headers : Headers) :
      Offline (fields.foldlM (fun headers field => putHeader headers field.1 field.2) headers) := by
    induction fields generalizing headers with
    | nil => exact .ok headers
    | cons field fields ih => exact .bind (offline_putHeader headers field.1 field.2) ih
  refine .bind (hfields o.headers.entries .empty) fun headers => ?_
  extract_lets authorize
  have hauthorize (headers : Headers) : Offline (authorize headers) := by
    dsimp only [authorize]
    split
    · exact offline_putHeader headers _ _
    · exact .ok headers
  split
  · exact .bind (.ok headers) hauthorize
  · exact .bind (offline_putHeader headers _ _) hauthorize

theorem offline_encodeBody (boundary : String) (o : Options) (headers : Headers) :
    Offline (encodeBody boundary o headers) := by
  unfold encodeBody
  split
  · exact .bind (offline_putHeader headers _ _) fun _ => .ok _
  · split <;> exact .ok _

/-- No connection fails when a request is built. -/
theorem offline_build (boundary : String) (method : Method) (url : String) (o : Options) :
    Offline (build boundary method url o) := by
  have hurl : Offline ((Url.parse url).mapError Failure.invalidUrl) := by
    intro f h
    cases hparse : Url.parse url with
    | error flaw =>
      rw [hparse] at h
      cases h
      rfl
    | ok parsed =>
      rw [hparse] at h
      cases h
  refine .bind hurl fun parsed => .bind (offline_headersOf o) fun headers => ?_
  exact .bind (offline_encodeBody boundary o headers) fun _ => .ok _

end Request

end Courier
