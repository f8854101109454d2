import Metalnet.Proofs.Netip

/-!
# IPv6 texts parse back

`ParseAddr` reads every valid address without zone back from the text `Addr.String` writes
(`parseAddr_string`; the IPv4 texts are `parseAddr_string_v4`). `string6` writes the fields before
the longest run of zero fields, `::` and the fields after the run (`string6_toList`). The field
loop of `parseIPv6` reads a run of fields back, by induction over the fields
(`parseIPv6Loop_hexFields`, `parseIPv6Loop_hexFields_ellipsis`), so `ParseAddr` reads each of the
three shapes such a text has (`parseAddr_hexFields`, `parseAddr_hexFields_ellipsis`,
`parseAddr_ellipsis_hexFields`), and the `::` widens to exactly the zero fields of the run
(`fieldBytes_run`). An IPv4 address mapped into IPv6 is written
`::ffff:a.b.c.d`, whose dotted part the loop reads as four bytes (`parseIPv6Loop_string4`).
Last, `Addr.Prefix` at a valid prefix's own length is its `Prefix.Masked`
(`Prefix.toPrefix_masked`).
-/

namespace Metalnet

/-! ## Hex digits -/

theorem hexVal_digitChar : ∀ d < 16, hexVal (Nat.digitChar d) = some d := by decide

theorem hexVal_colon : hexVal ':' = none := rfl

theorem hexVal_dot : hexVal '.' = none := rfl

/-- The hex reader over the digits `Nat.toDigitsCore 16` writes reads back their value. -/
theorem hexField_toDigitsCore (rest : List Char) :
    ∀ (f n : Nat) (ds : List Char), n < f →
      hexField 0 (Nat.toDigitsCore 16 f n ds ++ rest) = hexField n (ds ++ rest)
  | 0, n, _, h => absurd h (Nat.not_lt_zero n)
  | f + 1, n, ds, hf => by
    have hv := hexVal_digitChar (n % 16) (Nat.mod_lt _ (by decide))
    unfold Nat.toDigitsCore
    dsimp only
    split
    next hq =>
      rw [List.cons_append, hexField, hv]
      dsimp only
      congr 1
      omega
    next hq =>
      rw [hexField_toDigitsCore rest f (n / 16) _ (by omega), List.cons_append, hexField, hv]
      dsimp only
      rw [Nat.div_add_mod']

theorem hex_toList (x : Nat) : (Addr.hex x).toList = Nat.toDigitsCore 16 (x + 1) x [] := rfl

/-- A field `appendHex` writes, followed by the end of the text or a colon, reads back. -/
theorem hexField_hex (x : Nat) {rest : List Char} (hr : rest = [] ∨ ∃ cs, rest = ':' :: cs) :
    hexField 0 ((Addr.hex x).toList ++ rest) = (x, rest) := by
  rw [hex_toList, hexField_toDigitsCore rest _ x [] (Nat.lt_succ_self x), List.nil_append]
  rcases hr with rfl | ⟨cs, rfl⟩
  · rfl
  · rw [hexField, hexVal_colon]

theorem hex_ne_nil (x : Nat) : (Addr.hex x).toList ≠ [] := toDigitsCore_ne_nil 16 x x []

/-- The first digit `Nat.toDigitsCore` writes is not a colon. -/
theorem toDigitsCore_head (b f n : Nat) :
    ∃ d r, Nat.toDigitsCore b (f + 1) n [] = d :: r ∧ d ≠ ':' := by
  obtain ⟨d, r, h⟩ := List.exists_cons_of_ne_nil (toDigitsCore_ne_nil b f n [])
  refine ⟨d, r, h, ?_⟩
  have key : ∀ c ∈ "0123456789abcdef*".toList, c ≠ ':' := by decide
  rcases mem_toDigitsCore (h ▸ List.mem_cons_self d r) with h | ⟨k, rfl⟩
  · cases h
  · exact key _ (digitChar_mem _)

/-- The hex reader over digits it knows, followed by any text. -/
theorem hexField_append_digits (rest : List Char) : ∀ (ds : List Char) (acc : Nat),
    (∀ c ∈ ds, ∃ k < 16, c = Nat.digitChar k) →
      hexField acc (ds ++ rest) = hexField (hexField acc ds).1 rest ∧
        (hexField acc ds).1 < (acc + 1) * 16 ^ ds.length
  | [], acc, _ => ⟨rfl, by simp [hexField]⟩
  | c :: cs, acc, h => by
    obtain ⟨k, hk, rfl⟩ := h c (.head _)
    obtain ⟨h1, h2⟩ :=
      hexField_append_digits rest cs (acc * 16 + k) fun d hd => h d (.tail _ hd)
    rw [List.cons_append, hexField, hexField, hexVal_digitChar k hk]
    refine ⟨h1, lt_of_lt_of_le h2 ?_⟩
    calc (acc * 16 + k + 1) * 16 ^ cs.length ≤ (acc + 1) * 16 * 16 ^ cs.length :=
          Nat.mul_le_mul_right _ (by omega)
      _ = (acc + 1) * 16 ^ (cs.length + 1) := by rw [pow_succ]; ring

/-- The decimal digits of an octet read as hex stay below `16 ^ 3`. -/
theorem hexField_octet {o : Nat} (ho : o < 256) (rest : List Char) :
    hexField 0 (Nat.toDigitsCore 10 (o + 1) o [] ++ '.' :: rest) =
      ((hexField 0 (Nat.toDigitsCore 10 (o + 1) o [])).1, '.' :: rest) ∧
    (hexField 0 (Nat.toDigitsCore 10 (o + 1) o [])).1 < 16 ^ 3 := by
  have hd : ∀ c ∈ Nat.toDigitsCore 10 (o + 1) o [], ∃ k < 16, c = Nat.digitChar k := by
    intro c hc
    rcases mem_toDigitsCore hc with h | ⟨m, rfl⟩
    · cases h
    · exact ⟨m % 10, by omega, rfl⟩
  obtain ⟨h1, h2⟩ := hexField_append_digits ('.' :: rest) _ 0 hd
  have hlen := Nat.toDigitsCore_length 10 (by decide) (o + 1) o 3 (by norm_num; omega) (by decide)
  refine ⟨by rw [h1, hexField, hexVal_dot], lt_of_lt_of_le h2 ?_⟩
  rw [Nat.zero_add, Nat.one_mul]
  exact Nat.pow_le_pow_right (by decide) hlen

/-! ## Fields and their bytes -/

/-- The fields a text holds between its ends and its `::`, written by `appendHex` and joined by
colons. -/
def hexFields (xs : List Nat) : String := ":".intercalate (xs.map Addr.hex)

/-- The bytes `parseIPv6` stores for the fields: two per field, high byte first. -/
def fieldBytes (xs : List Nat) : List Nat := xs.flatMap fun x => [x / 256, x % 256]

@[simp] theorem fieldBytes_nil : fieldBytes [] = [] := rfl

@[simp] theorem fieldBytes_cons (x : Nat) (xs : List Nat) :
    fieldBytes (x :: xs) = x / 256 :: x % 256 :: fieldBytes xs := rfl

@[simp] theorem fieldBytes_append (xs ys : List Nat) :
    fieldBytes (xs ++ ys) = fieldBytes xs ++ fieldBytes ys := List.flatMap_append _ _ _

@[simp] theorem length_fieldBytes (xs : List Nat) : (fieldBytes xs).length = 2 * xs.length := by
  induction xs with
  | nil => rfl
  | cons x xs ih => simp only [fieldBytes_cons, List.length_cons, ih]; omega

theorem fieldBytes_replicate (m : Nat) :
    fieldBytes (List.replicate m 0) = List.replicate (2 * m) 0 := by
  induction m with
  | zero => rfl
  | succ m ih => rw [List.replicate_succ, fieldBytes_cons, ih, Nat.mul_succ]; rfl

theorem hexFields_cons (y : Nat) (ys : List Nat) : (hexFields (y :: ys)).toList =
    (Addr.hex y).toList ++ (ys.map fun z => ':' :: (Addr.hex z).toList).flatten := by
  show (String.intercalate.go _ ":" _).data = _
  rw [intercalate_go_data]
  simp only [List.singleton_append, List.map_map, String.toList, List.append_cancel_left_eq]
  rfl

theorem hexFields_cons_cons (x y : Nat) (ys : List Nat) : (hexFields (x :: y :: ys)).toList =
    (Addr.hex x).toList ++ ':' :: (hexFields (y :: ys)).toList := by
  rw [hexFields_cons, hexFields_cons]
  simp

theorem hexFields_head {xs : List Nat} (hxs : xs ≠ []) :
    ∃ d r, (hexFields xs).toList = d :: r ∧ d ≠ ':' := by
  obtain ⟨y, ys, rfl⟩ := List.exists_cons_of_ne_nil hxs
  obtain ⟨d, r, h, hd⟩ := toDigitsCore_head 16 y y
  exact ⟨d, _, by rw [hexFields_cons, hex_toList, h, List.cons_append], hd⟩

/-! ## The field loop -/

section Loop

variable (input : String) (n : Nat) (ip : List Nat) (x : Nat)

theorem hexField_hex_length (rest : List Char) :
    rest.length ≠ ((Addr.hex x).toList ++ rest).length := by
  have := List.length_pos.2 (hex_ne_nil x)
  simp only [List.length_append]
  omega

/-- The last field of an address. -/
theorem parseIPv6Loop_hex_end (ellipsis : Option Nat) (hx : x < 65536) :
    parseIPv6Loop input (n + 1) ip ellipsis (Addr.hex x).toList =
      .ok (ip ++ [x / 256, x % 256], ellipsis, []) := by
  rw [parseIPv6Loop, ← List.append_nil (Addr.hex x).toList, hexField_hex x (.inl rfl),
    if_neg (by omega), if_neg (hexField_hex_length x [])]

/-- A field followed by one colon and the next field. -/
theorem parseIPv6Loop_hex_colon (ellipsis : Option Nat) (hx : x < 65536) {d : Char}
    (cs : List Char) (hd : d ≠ ':') :
    parseIPv6Loop input (n + 1) ip ellipsis ((Addr.hex x).toList ++ ':' :: d :: cs) =
      parseIPv6Loop input n (ip ++ [x / 256, x % 256]) ellipsis (d :: cs) := by
  rw [parseIPv6Loop, hexField_hex x (.inr ⟨_, rfl⟩), if_neg (by omega),
    if_neg (hexField_hex_length x _)]
  split
  next h => exact absurd (List.cons.inj h).1 (by decide)
  next h => cases h
  next h =>
    obtain ⟨rfl, rfl⟩ := List.cons.inj h
    rw [if_neg (fun h => h rfl)]
    split
    next h => cases h
    next h => exact absurd (List.cons.inj h).1 hd
    next h => rw [h]

/-- A field followed by the `::`. -/
theorem parseIPv6Loop_hex_ellipsis (hx : x < 65536) (cs : List Char) :
    parseIPv6Loop input (n + 1) ip none ((Addr.hex x).toList ++ ':' :: ':' :: cs) =
      if cs = [] then .ok (ip ++ [x / 256, x % 256], some (ip ++ [x / 256, x % 256]).length, [])
      else parseIPv6Loop input n (ip ++ [x / 256, x % 256])
        (some (ip ++ [x / 256, x % 256]).length) cs := by
  rw [parseIPv6Loop, hexField_hex x (.inr ⟨_, rfl⟩), if_neg (by omega),
    if_neg (hexField_hex_length x _)]
  simp

/-- The loop reads a run of fields up to the end of the text. -/
theorem parseIPv6Loop_hexFields (ellipsis : Option Nat) :
    ∀ (xs : List Nat) (n : Nat) (ip : List Nat), xs ≠ [] → (∀ x ∈ xs, x < 65536) →
      parseIPv6Loop input (n + xs.length) ip ellipsis (hexFields xs).toList =
        .ok (ip ++ fieldBytes xs, ellipsis, [])
  | [], _, _, h, _ => absurd rfl h
  | [x], n, ip, _, hb => parseIPv6Loop_hex_end input n ip x ellipsis (hb x (.head _))
  | x :: y :: ys, n, ip, _, hb => by
    obtain ⟨d, r, hy, hd⟩ := hexFields_head (List.cons_ne_nil y ys)
    have hrest := parseIPv6Loop_hexFields ellipsis (y :: ys) n (ip ++ [x / 256, x % 256])
      (List.cons_ne_nil _ _) fun z hz => hb z (.tail _ hz)
    rw [hy] at hrest
    rw [hexFields_cons_cons, hy, List.length_cons, ← Nat.add_assoc,
      parseIPv6Loop_hex_colon input _ ip x ellipsis      (hb x (.head _)) r hd, hrest]
    simp

/-- The loop reads a run of fields up to a `::`, and goes on after it unless the text ends. -/
theorem parseIPv6Loop_hexFields_ellipsis :
    ∀ (xs : List Nat) (n : Nat) (ip : List Nat) (cs : List Char), xs ≠ [] →
      (∀ x ∈ xs, x < 65536) →
      parseIPv6Loop input (n + xs.length) ip none ((hexFields xs).toList ++ ':' :: ':' :: cs) =
        if cs = [] then .ok (ip ++ fieldBytes xs, some (ip ++ fieldBytes xs).length, [])
        else parseIPv6Loop input n (ip ++ fieldBytes xs) (some (ip ++ fieldBytes xs).length) cs
  | [], _, _, _, h, _ => absurd rfl h
  | [x], n, ip, cs, _, hb => by
    simpa using parseIPv6Loop_hex_ellipsis input n ip x (hb x (.head _)) cs
  | x :: y :: ys, n, ip, cs, _, hb => by
    obtain ⟨d, r, hy, hd⟩ := hexFields_head (List.cons_ne_nil y ys)
    have hrest := parseIPv6Loop_hexFields_ellipsis (y :: ys) n (ip ++ [x / 256, x % 256]) cs
      (List.cons_ne_nil _ _) fun z hz => hb z (.tail _ hz)
    rw [hy] at hrest
    rw [hexFields_cons_cons, hy, List.length_cons, ← Nat.add_assoc, List.append_assoc,
      List.cons_append, List.cons_append, parseIPv6Loop_hex_colon input _ ip x none
      (hb x (.head _)) _ hd, ← List.cons_append, hrest]
    simp

/-- The loop reads the fields before a `::` and those after it. -/
theorem parseIPv6Loop_run (n : Nat) (xs ys : List Nat) (hxs : xs ≠ [])
    (hb : ∀ x ∈ xs ++ ys, x < 65536) :
    parseIPv6Loop input (n + ys.length + xs.length) []  none
        ((hexFields xs).toList ++ ':' :: ':' :: (hexFields ys).toList) =
      .ok (fieldBytes xs ++ fieldBytes ys, some (2 * xs.length), []) := by
  rw [parseIPv6Loop_hexFields_ellipsis input xs _ [] _ hxs
    fun x hx => hb x (List.mem_append_left _ hx)]
  rcases eq_or_ne ys [] with rfl | hys
  · rw [if_pos (show (hexFields []).toList = [] from rfl)]
    simp
  · obtain ⟨d, r, hdr, -⟩ := hexFields_head hys
    rw [hdr, if_neg (List.cons_ne_nil d r), ← hdr,
      parseIPv6Loop_hexFields input _ ys n _ hys fun y hy => hb y (List.mem_append_right _ hy)]
    simp

/-- The loop reads an embedded IPv4 address after a `::` as its four octets. -/
theorem parseIPv6Loop_string4 (e : Nat) (b : BitVec 32) (hip : ip.length + 4 ≤ 16) :
    parseIPv6Loop input (n + 1) ip (some e) (Addr.string4 b).toList =
      .ok (ip ++ [(b.toNat >>> 24) % 256, (b.toNat >>> 16) % 256, (b.toNat >>> 8) % 256,
        (b.toNat >>> 0) % 256], some e, []) := by
  obtain ⟨rest, h4⟩ : ∃ rest, (Addr.string4 b).toList =
      Nat.toDigitsCore 10 ((b.toNat >>> 24) % 256 + 1) ((b.toNat >>> 24) % 256) [] ++ '.' :: rest :=
    ⟨_, string4_toList b⟩
  obtain ⟨h1, h2⟩ := hexField_octet (Nat.mod_lt (b.toNat >>> 24) (by decide : 0 < 256)) rest
  have hlen : ('.' :: rest).length ≠ (Addr.string4 b).toList.length := by
    have := List.length_pos.2
      (toDigitsCore_ne_nil 10 ((b.toNat >>> 24) % 256) ((b.toNat >>> 24) % 256) [])
    rw [h4, List.length_append]
    omega
  rw [← h4] at h1
  rw [parseIPv6Loop, h1, if_neg (by dsimp only; omega), if_neg hlen]
  simp only
  rw [if_neg (by simp), if_neg (by omega), show String.mk (Addr.string4 b).toList = Addr.string4 b
    from rfl, parseIPv4_string4]

end Loop

/-! ## The zero run -/

section ZeroRun

variable (g : Nat → Nat)

theorem zerosFrom_le (i : Nat) : Addr.zerosFrom g i ≤ 8 - i :=
  ((List.takeWhile_prefix _).length_le).trans (List.length_range _).le

/-- The fields of the run counted by `zerosFrom` are zero. -/
theorem zerosFrom_zero {i k : Nat} (hk : k < Addr.zerosFrom g i) : g (i + k) = 0 := by
  have hpre := List.prefix_iff_eq_take.1 (List.takeWhile_prefix fun k => g (i + k) == 0 :
    (List.range (8 - i)).takeWhile _ <+: List.range (8 - i))
  have hmem : k ∈ (List.range (8 - i)).takeWhile fun k => g (i + k) == 0 := by
    rw [hpre, List.take_range, List.mem_range]
    exact lt_min hk (Nat.lt_of_lt_of_le hk (zerosFrom_le g i))
  have h := @List.mem_takeWhile_imp _ (fun k => g (i + k) == 0) _ _ hmem
  exact beq_iff_eq.1 h

/-- What `zeroRun` finds: no run, or a run of at least two zero fields that starts at a field. -/
def IsZeroRun (r : Nat × Nat) : Prop :=
  r = (255, 255) ∨ r.1 < 8 ∧ r.2 = r.1 + Addr.zerosFrom g r.1 ∧ 2 ≤ Addr.zerosFrom g r.1

theorem isZeroRun_foldl : ∀ (l : List Nat) (r : Nat × Nat), (∀ i ∈ l, i < 8) →
    IsZeroRun g r → IsZeroRun g (l.foldl (fun (zs, ze) i =>
      if 2 ≤ Addr.zerosFrom g i ∧ ze - zs < Addr.zerosFrom g i then (i, i + Addr.zerosFrom g i)
      else (zs, ze)) r)
  | [], _, _, hr => hr
  | i :: l, (zs, ze), hl, hr => by
    refine isZeroRun_foldl l _ (fun j hj => hl j (.tail _ hj)) ?_
    dsimp only
    split
    next h => exact .inr ⟨hl i (.head _), rfl, h.1⟩
    next => exact hr

theorem isZeroRun_zeroRun : IsZeroRun g (Addr.zeroRun g) :=
  isZeroRun_foldl g _ _ (fun _ => List.mem_range.1) (.inl rfl)

/-- The bytes of the fields before a run, the run's zeros and the fields after it are the
bytes of all eight fields. -/
theorem fieldBytes_run {zs ze : Nat} (hzs : zs < 8)
    (hze : ze = zs + Addr.zerosFrom g zs) :
    fieldBytes ((List.range zs).map g) ++ List.replicate (2 * (ze - zs)) 0 ++
      fieldBytes (((List.range (8 - ze)).map (ze + ·)).map g) =
        fieldBytes ((List.range 8).map g) := by
  have hle := zerosFrom_le g zs
  have h8 : List.range 8 = (List.range zs ++ (List.range (ze - zs)).map (zs + ·)) ++
      (List.range (8 - ze)).map (ze + ·) := by
    rw [← List.range_add, show zs + (ze - zs) = ze by omega, ← List.range_add,
      show ze + (8 - ze) = 8 by omega]
  have hmid : ((List.range (ze - zs)).map (zs + ·)).map g = List.replicate (ze - zs) 0 := by
    refine List.eq_replicate_iff.2 ⟨by simp, fun x hx => ?_⟩
    rw [List.map_map] at hx
    obtain ⟨k, hk, rfl⟩ := List.mem_map.1 hx
    exact zerosFrom_zero g (by rw [List.mem_range] at hk; omega)
  rw [h8, List.map_append, List.map_append, hmid, fieldBytes_append, fieldBytes_append,
    fieldBytes_replicate]

end ZeroRun

/-! ## Bytes to number -/

theorem foldl_fieldBytes (acc : Nat) (xs : List Nat) :
    (fieldBytes xs).foldl (fun acc b => acc * 256 + b) acc =
      xs.foldl (fun acc x => acc * 65536 + x) acc := by
  induction xs generalizing acc with
  | nil => simp only [fieldBytes_nil, List.foldl_nil]
  | cons x xs ih =>
    simp only [fieldBytes_cons, List.foldl_cons]
    rw [show (acc * 256 + x / 256) * 256 + x % 256 = acc * 65536 + x by omega]
    exact ih _

theorem foldl_v6u16 (a : BitVec 128) : ∀ k ≤ 8,
    ((List.range k).map (Addr.v6u16 a)).foldl (fun acc x => acc * 65536 + x) 0 =
      a.toNat >>> (128 - 16 * k)
  | 0, _ => by
    have := a.isLt
    simp only [List.range_zero, List.map_nil, List.foldl_nil, Nat.shiftRight_eq_div_pow]
    omega
  | k + 1, hk => by
    rw [List.range_succ, List.map_append, List.foldl_append, foldl_v6u16 a k (by omega),
      show 128 - 16 * k = (112 - 16 * k) + 16 by omega, Nat.shiftRight_add,
      show 128 - 16 * (k + 1) = 112 - 16 * k by omega]
    simp only [List.map_cons, List.map_nil, List.foldl_cons, List.foldl_nil, Addr.v6u16,
      Nat.shiftRight_eq_div_pow _ 16]
    exact Nat.div_add_mod' _ _

/-- The bytes of the eight fields of an address are the address. -/
theorem fromBytes_fieldBytes (a : BitVec 128) :
    BitVec.ofNat 128 (fromBytes (fieldBytes ((List.range 8).map (Addr.v6u16 a)))) = a := by
  apply BitVec.eq_of_toNat_eq
  rw [fromBytes, foldl_fieldBytes, foldl_v6u16 a 8 le_rfl, BitVec.toNat_ofNat]
  exact Nat.mod_eq_of_lt a.isLt

/-- The number the bytes of `::ffff:a.b.c.d` make is the address they were written from. -/
theorem fromBytes_4in6 (a : BitVec 128) (h : (a >>> 32 == 0xffff) = true) :
    BitVec.ofNat 128 (fromBytes (List.replicate 10 0 ++ [255, 255] ++
      [((BitVec.ofNat 32 a.toNat).toNat >>> 24) % 256,
        ((BitVec.ofNat 32 a.toNat).toNat >>> 16) % 256,
        ((BitVec.ofNat 32 a.toNat).toNat >>> 8) % 256,
        ((BitVec.ofNat 32 a.toNat).toNat >>> 0) % 256])) =
      a := by
  have ha : a.toNat >>> 32 = 65535 := by simpa using congrArg BitVec.toNat (beq_iff_eq.1 h)
  have h0 : (List.replicate 10 0 ++ [255, 255]).foldl (fun acc b => acc * 256 + b) 0 = 65535 :=
    rfl
  apply BitVec.eq_of_toNat_eq
  rw [fromBytes, List.foldl_append, foldl_octets, BitVec.toNat_ofNat, BitVec.toNat_ofNat, h0]
  rw [Nat.shiftRight_eq_div_pow] at ha
  have := a.isLt
  omega

/-! ## The start of `ParseAddr` and `parseIPv6` -/

theorem mem_hexFields {xs : List Nat} {c : Char} (h : c ∈ (hexFields xs).toList) :
    c = ':' ∨ c ∈ "0123456789abcdef*".toList := by
  rcases mem_intercalate h with h | ⟨x, hx, h⟩
  · exact .inl (by simpa using h)
  · obtain ⟨y, -, rfl⟩ := List.mem_map.1 hx
    rcases mem_toDigitsCore h with h | ⟨k, rfl⟩
    · cases h
    · exact .inr (digitChar_mem _)

/-- In the text of fields followed by a colon, the first of `.`, `:` and `%` is a colon. -/
theorem find?_hexFields (xs : List Nat) (rest : List Char) :
    ((hexFields xs).toList ++ ':' :: rest).find? (fun c => c = '.' ∨ c = ':' ∨ c = '%') =
      some ':' := by
  rw [List.find?_append]
  cases h : (hexFields xs).toList.find? (fun c => c = '.' ∨ c = ':' ∨ c = '%') with
  | none => rfl
  | some c =>
    have key : ∀ d ∈ "0123456789abcdef*".toList, ¬ (d = '.' ∨ d = ':' ∨ d = '%') := by
      decide
    rcases mem_hexFields (List.mem_of_find?_eq_some h) with rfl | hc
    · rfl
    · exact absurd (by simpa using List.find?_some h) (key c hc)

theorem find?_hexFields_of_two {xs : List Nat} (h : 2 ≤ xs.length) :
    (hexFields xs).toList.find? (fun c => c = '.' ∨ c = ':' ∨ c = '%') = some ':' := by
  match xs, h with
  | x :: y :: ys, _ => rw [hexFields_cons_cons]; exact find?_hexFields [x] _

/-- A text whose first `.`, `:` or `%` is a colon is read as an IPv6 address. -/
theorem parseAddr_of_find? {s : String}
    (h : s.toList.find? (fun c => c = '.' ∨ c = ':' ∨ c = '%') = some ':') :
    parseAddr s = parseIPv6 s := by
  rw [parseAddr, h]
  rfl

/-- How `parseIPv6` completes the bytes its loop read: sixteen bytes and no `::`, or fewer with
the `::` widened to the zeros they are short of. -/
def Expands (ip : List Nat) (ellipsis : Option Nat) (bytes : List Nat) : Prop :=
  ellipsis = none ∧ ip.length = 16 ∧ bytes = ip ∨
    ∃ e, ellipsis = some e ∧ ip.length < 16 ∧
      bytes = ip.take e ++ List.replicate (16 - ip.length) 0 ++ ip.drop e

/-- A text without zone that starts with a field is read by the loop from its start. -/
theorem parseIPv6_of_field {t : String} (hz : '%' ∉ t.toList) {d : Char} {r : List Char}
    (ht : t.toList = d :: r) (hd : d ≠ ':') {ip bytes : List Nat} {ellipsis : Option Nat}
    (hloop : parseIPv6Loop t 8 [] none (d :: r) = .ok (ip, ellipsis, []))
    (hb : Expands ip ellipsis bytes) :
    parseIPv6 t = .ok (.v6 (BitVec.ofNat 128 (fromBytes bytes)) "") := by
  unfold parseIPv6
  dsimp only
  rw [takeWhile_ne_percent hz, dropWhile_ne_percent hz, if_neg fun h => hz h.1, ht]
  simp only [hd, List.cons.injEq, false_and, imp_false, not_false_eq_true, implies_true]
  rw [if_neg (by simp), hloop]
  rcases hb with ⟨rfl, hlen, rfl⟩ | ⟨e, rfl, hlen, rfl⟩
  · simp [hlen]
  · simp [hlen]

/-- A text that starts with `::` and goes on is read by the loop after the `::`. -/
theorem parseIPv6_of_ellipsis {t : String} (hz : '%' ∉ t.toList) {r : List Char}
    (ht : t.toList = ':' :: ':' :: r) (hr : r ≠ []) {ip bytes : List Nat} {ellipsis : Option Nat}
    (hloop : parseIPv6Loop t 8 [] (some 0) r = .ok (ip, ellipsis, []))
    (hb : Expands ip ellipsis bytes) :
    parseIPv6 t = .ok (.v6 (BitVec.ofNat 128 (fromBytes bytes)) "") := by
  unfold parseIPv6
  dsimp only
  rw [takeWhile_ne_percent hz, dropWhile_ne_percent hz, if_neg fun h => hz h.1, ht]
  simp only
  rw [if_neg fun h => hr h.2, hloop]
  rcases hb with ⟨rfl, hlen, rfl⟩ | ⟨e, rfl, hlen, rfl⟩
  · simp [hlen]
  · simp [hlen]

/-- The text `::` alone is the zero address. -/
theorem parseIPv6_ellipsis_only {t : String} (ht : t.toList = [':', ':']) :
    parseIPv6 t = .ok (.v6 0 "") := by
  have hz : '%' ∉ t.toList := by rw [ht]; decide
  unfold parseIPv6
  dsimp only
  rw [takeWhile_ne_percent hz, dropWhile_ne_percent hz, if_neg fun h => hz h.1, ht]
  rfl

/-! ## IPv6 texts -/

/-- `string6` without a zone: the fields before the run, `::` and the fields after it, or all
eight fields when there is no run. -/
theorem string6_toList (a : BitVec 128) : (Addr.string6 a "").toList =
    if (Addr.zeroRun (Addr.v6u16 a)).1 < 8 then
      (hexFields ((List.range (Addr.zeroRun (Addr.v6u16 a)).1).map (Addr.v6u16 a))).toList ++
        ':' :: ':' :: (hexFields (((List.range (8 - (Addr.zeroRun (Addr.v6u16 a)).2)).map
          ((Addr.zeroRun (Addr.v6u16 a)).2 + ·)).map (Addr.v6u16 a))).toList
    else (hexFields ((List.range 8).map (Addr.v6u16 a))).toList := by
  unfold Addr.string6 hexFields
  dsimp only
  rw [if_pos rfl]
  split
  · simp only [String.toList, List.map_map, String.data_append, List.append_assoc,
      List.cons_append, List.singleton_append]
    rfl
  · rfl

theorem v6u16_lt (a : BitVec 128) (l : List Nat) : ∀ x ∈ l.map (Addr.v6u16 a), x < 65536 := by
  intro x hx
  obtain ⟨i, -, rfl⟩ := List.mem_map.1 hx
  exact Nat.mod_lt _ (by decide)

/-- Eight fields with no `::` read as their bytes. -/
theorem parseAddr_hexFields {t : String} (hz : '%' ∉ t.toList) {xs : List Nat}
    (hlen : xs.length = 8) (hb : ∀ x ∈ xs, x < 65536) (ht : t.toList = (hexFields xs).toList) :
    parseAddr t = .ok (.v6 (BitVec.ofNat 128 (fromBytes (fieldBytes xs))) "") := by
  have hxs : xs ≠ [] := fun h => by simp [h] at hlen
  obtain ⟨d, r, hdr, hd⟩ := hexFields_head hxs
  have hloop := parseIPv6Loop_hexFields t none xs 0 [] hxs hb
  rw [hdr, hlen, Nat.zero_add, List.nil_append] at hloop
  rw [parseAddr_of_find? (by rw [ht]; exact find?_hexFields_of_two (by omega))]
  exact parseIPv6_of_field hz (ht.trans hdr) hd hloop (.inl ⟨rfl, by simp [hlen], rfl⟩)

/-- Fields, `::` and fields read as the bytes of the fields with the zeros they are short of
between them. -/
theorem parseAddr_hexFields_ellipsis {t : String} (hz : '%' ∉ t.toList) {xs ys : List Nat}
    (hxs : xs ≠ []) (hlen : xs.length + ys.length ≤ 6) (hb : ∀ x ∈ xs ++ ys, x < 65536)
    (ht : t.toList = (hexFields xs).toList ++ ':' :: ':' :: (hexFields ys).toList) :
    parseAddr t = .ok (.v6 (BitVec.ofNat 128 (fromBytes (fieldBytes xs ++
      List.replicate (16 - 2 * (xs.length + ys.length)) 0 ++ fieldBytes ys))) "") := by
  obtain ⟨d, r, hdr, hd⟩ := hexFields_head hxs
  have hloop := parseIPv6Loop_run t (8 - xs.length - ys.length) xs ys hxs hb
  rw [show 8 - xs.length - ys.length + ys.length + xs.length = 8 by omega, hdr,
    List.cons_append] at hloop
  rw [parseAddr_of_find? (by rw [ht]; exact find?_hexFields _ _)]
  refine parseIPv6_of_field hz (by rw [ht, hdr, List.cons_append]) hd hloop
    (.inr ⟨2 * xs.length, rfl, by simp only [List.length_append, length_fieldBytes]; omega, ?_⟩)
  simp only [List.length_append, length_fieldBytes, List.take_left' (length_fieldBytes xs),
    List.drop_left' (length_fieldBytes xs)]
  rw [Nat.mul_add]

/-- `::` and fields read as the zeros the fields are short of, then their bytes. -/
theorem parseAddr_ellipsis_hexFields {t : String} (hz : '%' ∉ t.toList) {ys : List Nat}
    (hlen : ys.length ≤ 6) (hb : ∀ y ∈ ys, y < 65536)
    (ht : t.toList = ':' :: ':' :: (hexFields ys).toList) :
    parseAddr t = .ok (.v6 (BitVec.ofNat 128
      (fromBytes (List.replicate (16 - 2 * ys.length) 0 ++ fieldBytes ys))) "") := by
  rw [parseAddr_of_find? (by rw [ht]; rfl)]
  rcases eq_or_ne ys [] with rfl | hys
  · rw [parseIPv6_ellipsis_only ht]
    rfl
  · obtain ⟨d, r, hdr, -⟩ := hexFields_head hys
    have hloop := parseIPv6Loop_hexFields t (some 0) ys (8 - ys.length) [] hys hb
    rw [Nat.sub_add_cancel (by omega), List.nil_append] at hloop
    refine parseIPv6_of_ellipsis hz ht (by rw [hdr]; exact List.cons_ne_nil _ _) hloop
      (.inr ⟨0, rfl, by simp only [length_fieldBytes]; omega, ?_⟩)
    simp

/-- `ParseAddr` reads back every IPv6 address without zone from the text
`string6` writes. -/
theorem parseAddr_string6 (a : BitVec 128) : parseAddr (Addr.string6 a "") = .ok (.v6 a "") := by
  have hz := percent_not_mem_string6 a
  have hb := v6u16_lt a
  have ht := string6_toList a
  have hrun := isZeroRun_zeroRun (Addr.v6u16 a)
  conv_rhs => rw [← fromBytes_fieldBytes a]
  generalize Addr.zeroRun (Addr.v6u16 a) = run at ht hrun
  obtain ⟨zs, ze⟩ := run
  rcases hrun with h | ⟨hzs, hze, h2⟩
  · -- no run: the eight fields
    cases h
    rw [if_neg (by decide)] at ht
    exact parseAddr_hexFields hz (by simp) (hb _) ht
  · have hle := zerosFrom_le (Addr.v6u16 a) zs
    dsimp only at ht hzs hze h2
    rw [if_pos hzs] at ht
    rw [← fieldBytes_run (Addr.v6u16 a) hzs hze]
    rcases Nat.eq_zero_or_pos zs with rfl | h0
    · -- the run starts the address
      rw [show 2 * (ze - 0) = 16 - 2 * (8 - ze) by omega]
      simpa using parseAddr_ellipsis_hexFields hz
        (by simp only [List.map_map, List.length_map, List.length_range]; omega) (hb _) ht
    · -- the run is inside the address or ends it
      rw [show 2 * (ze - zs) = 16 - 2 * (zs + (8 - ze)) by omega]
      simpa using parseAddr_hexFields_ellipsis hz
        (by simp only [ne_eq, List.map_eq_nil_iff, List.range_eq_nil]; omega)
        (by simp only [List.length_map, List.length_range, List.map_map]; omega)
        (fun x hx => (List.mem_append.1 hx).elim (hb _ x) (hb _ x)) ht

theorem string4In6_toList (b : BitVec 32) : ("::ffff:" ++ Addr.string4 b ++ "").toList =
    ':' :: ':' :: ((Addr.hex 65535).toList ++ ':' :: (Addr.string4 b).toList) := by
  simp only [String.toList, String.data_append, List.append_nil]
  rfl

/-- `ParseAddr` reads back an IPv4 address mapped into IPv6 from the text `::ffff:a.b.c.d`. -/
theorem parseAddr_string4In6 (a : BitVec 128) (h : (a >>> 32 == 0xffff) = true) :
    parseAddr ("::ffff:" ++ Addr.string4 (BitVec.ofNat 32 a.toNat) ++ "") = .ok (.v6 a "") := by
  conv_rhs => rw [← fromBytes_4in6 a h]
  generalize BitVec.ofNat 32 a.toNat = b
  have ht := string4In6_toList b
  have hz : '%' ∉ ("::ffff:" ++ Addr.string4 b ++ "").toList := by
    rw [ht]
    simp only [List.mem_cons, List.mem_append, not_or]
    exact ⟨by decide, by decide, by decide, by decide, percent_not_mem_string4 _⟩
  obtain ⟨d, r, hdr, hd⟩ :=
    toDigitsCore_head 10 ((b.toNat >>> 24) % 256) ((b.toNat >>> 24) % 256)
  have h4 := string4_toList b
  rw [hdr, List.cons_append] at h4
  have hloop : parseIPv6Loop ("::ffff:" ++ Addr.string4 b ++ "") 8 [] (some 0)
      ((Addr.hex 65535).toList ++ ':' :: (Addr.string4 b).toList) =
      .ok ([] ++ [65535 / 256, 65535 % 256] ++ [(b.toNat >>> 24) % 256, (b.toNat >>> 16) % 256,
        (b.toNat >>> 8) % 256, (b.toNat >>> 0) % 256], some 0, []) := by
    rw [h4, parseIPv6Loop_hex_colon _ 7 [] 65535 (some 0) (by decide) _ hd, ← h4,
      parseIPv6Loop_string4 _ 6 _ 0 _ (by decide)]
  rw [parseAddr_of_find? (by rw [ht]; rfl), parseIPv6_of_ellipsis hz ht (List.cons_ne_nil _ _)
    hloop (.inr ⟨0, rfl, by simp, rfl⟩)]
  rfl

theorem parseAddr_string_v6 (a : BitVec 128) :
    parseAddr (Addr.v6 a "").string = .ok (.v6 a "") := by
  rw [Addr.string]
  split
  next h => exact parseAddr_string4In6 a h
  next => exact parseAddr_string6 a

/-- `ParseAddr` reads every valid address without zone back from the text
`Addr.String` writes. -/
theorem parseAddr_string {a : Addr} (hv : a.isValid = true) (hz : a.zone = "") :
    parseAddr a.string = .ok a := by
  cases a with
  | zero => cases hv
  | v4 a => exact parseAddr_string_v4 a
  | v6 a z =>
    cases hz
    exact parseAddr_string_v6 a

/-! ## Masking -/

theorem Prefix.isValid_addr {p : Prefix} (h : p.isValid = true) : p.addr.isValid = true := by
  simp only [Prefix.isValid, Bool.and_eq_true] at h
  exact h.1.1

/-- A valid prefix's address cut to its length is its masked prefix. -/
theorem Prefix.toPrefix_masked {p : Prefix} (h : p.isValid = true) :
    p.addr.toPrefix p.bits = .ok p.masked := by
  cases hm : p.addr.toPrefix p.bits with
  | ok m => rw [Prefix.masked, hm]
  | error e =>
    simp only [Prefix.isValid, Bool.and_eq_true, decide_eq_true_eq] at h
    obtain ⟨⟨hv, h0⟩, hb⟩ := h
    unfold Addr.toPrefix Prefix.addr at hm
    rw [if_neg (by omega)] at hm
    split at hm
    next hip => rw [hip] at hv; cases hv
    next hip => rw [hip] at hb; rw [if_neg (by simpa using hb)] at hm; cases hm
    next hip => rw [hip] at hb; rw [if_neg (by simpa using hb)] at hm; cases hm

/-- Masking a valid prefix keeps its length and gives a valid prefix. -/
theorem Prefix.isValid_masked {p : Prefix} (h : p.isValid = true) :
    p.masked.isValid = true ∧ p.masked.bits = p.bits := by
  have hm := Prefix.toPrefix_masked h
  simp only [Prefix.isValid, Bool.and_eq_true, decide_eq_true_eq] at h
  obtain ⟨⟨hv, h0⟩, hb⟩ := h
  unfold Addr.toPrefix Prefix.addr at hm
  rw [if_neg (by omega)] at hm
  split at hm
  next hip => rw [hip] at hv; cases hv
  all_goals
    rename_i hip
    rw [hip] at hb
    rw [if_neg (by simpa using hb), Except.ok.injEq] at hm
    rw [← hm, prefixFrom, dif_pos ⟨h0, by simpa using hb⟩]
    exact ⟨by simpa [Prefix.isValid, Addr.withoutZone, Addr.isValid, Addr.bitLen, h0] using hb,
      rfl⟩

end Metalnet
