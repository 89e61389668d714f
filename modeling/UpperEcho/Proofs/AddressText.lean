import UpperEcho.Proofs.NumeralText
import UpperEcho.Net.Address

/-! Address texts: what `Ipv6Addr.parse?` accepts has at most 45 characters (`parse_text`), and the
canonical text reads back to its address (`parse_render`). -/
namespace UpperEcho.Net

def AddressChar (c : Char) : Prop := (digitValue 16 c).isSome ∨ c = ':' ∨ c = '.'

theorem AddressChar.utf8Size {c : Char} (h : AddressChar c) : c.utf8Size = 1 := by
  rcases h with digit | rfl | rfl
  · exact utf8Size_of_digitValue digit
  · rfl
  · rfl

theorem expectChar_some {c : Char} {cs rest : List Char} (h : expectChar c cs = some rest) :
    cs = c :: rest := by
  unfold expectChar at h
  split at h
  · split at h
    · simp_all
    · simp at h
  · simp at h

theorem utf8ByteSize_of_ascii {s : String} (h : ∀ c ∈ s.toList, c.utf8Size = 1) :
    s.utf8ByteSize = s.toList.length := by
  suffices chars : ∀ cs : List Char, (∀ c ∈ cs, c.utf8Size = 1) →
      (String.ofList cs).utf8ByteSize = cs.length by
    simpa using chars s.toList h
  intro cs
  induction cs with
  | nil => intro _; rfl
  | cons c cs ih =>
    intro one
    rw [List.forall_mem_cons] at one
    rw [String.ofList_cons, String.utf8ByteSize_append, String.utf8ByteSize_singleton, one.1, ih one.2]
    simp only [List.length_cons]
    omega

/-! ### Reading IPv4 addresses -/

theorem Ipv4Addr.read_consumes {cs rest : List Char} {os : List UInt8}
    (h : Ipv4Addr.read cs = some (os, rest)) :
    os.length = 4 ∧ ∃ used, cs = used ++ rest ∧ used.length ≤ 15 ∧ '.' ∈ used ∧
      ∀ c ∈ used, AddressChar c := by
  simp only [Ipv4Addr.read, Option.bind_eq_some_iff, bind, Option.pure_def, Option.some.injEq] at h
  obtain ⟨⟨a, r1⟩, h1, s1, e1, ⟨b, r2⟩, h2, s2, e2, ⟨c, r3⟩, h3, s3, e3, ⟨d, r4⟩, h4, eq⟩ := h
  simp only [Prod.mk.injEq] at eq
  obtain ⟨rfl, rfl⟩ := eq
  obtain ⟨u1, rfl, n1, d1⟩ := readNumber_consumes h1
  obtain ⟨u2, rfl, n2, d2⟩ := readNumber_consumes h2
  obtain ⟨u3, rfl, n3, d3⟩ := readNumber_consumes h3
  obtain ⟨u4, rfl, n4, d4⟩ := readNumber_consumes h4
  have dot1 := expectChar_some e1
  have dot2 := expectChar_some e2
  have dot3 := expectChar_some e3
  subst dot1 dot2 dot3
  have digits : ∀ u : List Char, (∀ c ∈ u, (digitValue 10 c).isSome) → ∀ c ∈ u, AddressChar c :=
    fun u hu c mem => .inl (hex_of_dec (hu c mem))
  refine ⟨rfl, u1 ++ '.' :: u2 ++ '.' :: u3 ++ '.' :: u4, by simp, by simp; omega, by simp, ?_⟩
  have dotChar : AddressChar '.' := .inr (.inr rfl)
  simp only [List.forall_mem_append, List.forall_mem_cons]
  exact ⟨⟨⟨digits _ d1, dotChar, digits _ d2⟩, dotChar, digits _ d3⟩, dotChar, digits _ d4⟩

theorem Ipv4Addr.read_none_of_dot {cs : List Char} (h : '.' ∉ cs) : Ipv4Addr.read cs = none := by
  cases read : Ipv4Addr.read cs with
  | none => rfl
  | some result =>
    obtain ⟨-, used, rfl, -, dot, -⟩ := Ipv4Addr.read_consumes read
    exact absurd (List.mem_append_left _ dot) h

theorem Ipv4Addr.read_colon (r : List Char) : Ipv4Addr.read (':' :: r) = none := by
  simp [Ipv4Addr.read, readNumber_stop (digitValue_colon 10)]

theorem readNumber_octet (o : UInt8) {rest : List Char} (stop : digitRun 10 rest = ([], rest)) :
    readNumber 10 3 255 false (Nat.toDigits 10 o.toNat ++ rest) = some (o.toNat, rest) := by
  have small := o.toNat_lt
  refine readNumber_toDigits (.inl rfl) ?_ (by simp at small; omega) stop
  rw [Nat.length_toDigits_le_iff (by decide) (by decide)]
  simp at small
  omega

theorem Ipv4Addr.read_render (v : Ipv4Addr) {rest : List Char} (stop : digitRun 10 rest = ([], rest)) :
    Ipv4Addr.read (v.render.toList ++ rest) = some (v.octets, rest) := by
  obtain ⟨os, four⟩ := v
  match os, four with
  | [o1, o2, o3, o4], _ =>
    have dot : ∀ r, digitRun 10 ('.' :: r) = ([], '.' :: r) := fun r => digitRun_stop (digitValue_dot 10) r
    simp only [Ipv4Addr.render, String.toList_intercalate, List.map_cons, List.map_nil,
      Nat.toString_eq_repr, Nat.toList_repr]
    simp only [List.intercalate_cons_cons, List.intercalate_singleton, List.append_assoc]
    simp [Ipv4Addr.read, readNumber_octet _ (dot _), readNumber_octet _ stop, expectChar]

/-! ### Groups of an IPv6 address -/

theorem toDigits_hex (n : Nat) : ∀ c ∈ Nat.toDigits 16 n, (digitValue 16 c).isSome := by
  obtain ⟨ds, eq, lt, -⟩ := toDigits_digits (by decide : 1 < 16) n
  rw [eq]
  intro c mem
  obtain ⟨d, small, rfl⟩ := List.mem_map.1 mem
  simp [digitValue_hex d (lt d small)]

namespace Ipv6Addr

def groupText : Bool → List UInt16 → List Char
  | _, [] => []
  | first, g :: gs => (if first then [] else [':']) ++ Nat.toDigits 16 g.toNat ++ groupText false gs

theorem groupText_chars (first : Bool) (gs : List UInt16) :
    ∀ c ∈ groupText first gs, (digitValue 16 c).isSome ∨ c = ':' := by
  induction gs generalizing first with
  | nil => simp [groupText]
  | cons g gs ih =>
    intro c mem
    simp only [groupText, List.mem_append] at mem
    rcases mem with (sep | digit) | later
    · cases first <;> simp_all
    · exact .inl (toDigits_hex _ c digit)
    · exact ih false c later

theorem dot_not_mem_groupText (first : Bool) (gs : List UInt16) : '.' ∉ groupText first gs := by
  intro mem
  rcases groupText_chars first gs '.' mem with digit | colon
  · simp at digit
  · exact absurd colon (by decide)

theorem hexGroups_toList (gs : List UInt16) : (hexGroups gs).toList = groupText true gs := by
  -- after the first group every group follows a colon
  have joined : ∀ g gs, ([':'] : List Char).intercalate
      (Nat.toDigits 16 (UInt16.toNat g) :: gs.map fun g => Nat.toDigits 16 g.toNat) =
      Nat.toDigits 16 g.toNat ++ groupText false gs := by
    intro g gs
    induction gs generalizing g with
    | nil => simp [groupText]
    | cons h gs ih => simp [List.intercalate_cons_cons, ih h, groupText]
  cases gs with
  | nil => rfl
  | cons g gs =>
    simp only [hexGroups, hexText, String.toList_intercalate, List.map_cons, List.map_map]
    simpa [Function.comp_def, groupText] using joined g gs

theorem separated_groupText (first : Bool) (cs : List Char) :
    separated first ((if first then [] else [':']) ++ cs) = some cs := by
  cases first <;> simp [separated, expectChar]

@[simp] theorem readGroups_nil (slots : Nat) (first : Bool) : readGroups slots first [] = ([], false, []) := by
  cases slots with
  | zero => rfl
  | succ slots =>
    cases first <;> simp [readGroups, separated, expectChar, Ipv4Addr.read, readNumber, digitRun]

theorem readGroups_colons (slots : Nat) (first : Bool) (after : List Char) :
    readGroups slots first (':' :: ':' :: after) = ([], false, ':' :: ':' :: after) := by
  cases slots with
  | zero => rfl
  | succ slots =>
    cases first <;>
      simp [readGroups, separated, expectChar, Ipv4Addr.read_colon, readNumber_stop (digitValue_colon 16)]

theorem readGroups_groupText (first : Bool) (gs : List UInt16) {slots : Nat} {rest : List Char}
    (fit : gs.length ≤ slots) (noDot : '.' ∉ rest) (stop : digitRun 16 rest = ([], rest))
    (ends : ∀ k b, readGroups k b rest = ([], false, rest)) :
    readGroups slots first (groupText first gs ++ rest) = (gs, false, rest) := by
  induction gs generalizing first slots with
  | nil => exact ends slots first
  | cons g gs ih =>
    obtain ⟨slots, rfl⟩ : ∃ k, slots = k + 1 := ⟨slots - 1, by simp at fit; omega⟩
    have after : digitRun 16 (groupText false gs ++ rest) = ([], groupText false gs ++ rest) := by
      cases gs with
      | nil => exact stop
      | cons h hs => exact digitRun_stop (digitValue_colon 16) _
    have noIpv4 : Ipv4Addr.read (Nat.toDigits 16 g.toNat ++ (groupText false gs ++ rest)) = none := by
      refine Ipv4Addr.read_none_of_dot ?_
      simp only [List.mem_append, not_or]
      exact ⟨fun mem => by simpa using toDigits_hex _ _ mem, dot_not_mem_groupText false gs, noDot⟩
    have group : readNumber 16 4 0xFFFF true (Nat.toDigits 16 g.toNat ++ (groupText false gs ++ rest)) =
        some (g.toNat, groupText false gs ++ rest) := by
      have small := g.toNat_lt
      refine readNumber_toDigits (.inr rfl) ?_ (by simp at small ⊢; omega) after
      rw [Nat.length_toDigits_le_iff (by decide) (by decide)]
      simpa using small
    have text : groupText first (g :: gs) ++ rest =
        (if first then [] else [':']) ++ (Nat.toDigits 16 g.toNat ++ (groupText false gs ++ rest)) := by
      simp [groupText]
    rw [text, readGroups, separated_groupText]
    simp [noIpv4, group, ih false (by simp at fit; omega)]

/-! ### The zero run the printer compresses -/

def ZeroRunAt (gs : List UInt16) (s l : Nat) : Prop :=
  s + l ≤ gs.length ∧ (gs.drop s).take l = List.replicate l 0

theorem ZeroRunAt.empty (gs : List UInt16) : ZeroRunAt gs 0 0 := by
  simp [ZeroRunAt]

theorem ZeroRunAt.append {pre : List UInt16} {s l : Nat} (h : ZeroRunAt pre s l) (rest : List UInt16) :
    ZeroRunAt (pre ++ rest) s l := by
  obtain ⟨fit, zeros⟩ := h
  refine ⟨by simp; omega, ?_⟩
  rw [List.drop_append_of_le_length (by omega), List.take_append_of_le_length (by simp; omega), zeros]

theorem ZeroRunAt.extend {pre : List UInt16} {s l : Nat} (h : ZeroRunAt pre s l)
    (atEnd : s + l = pre.length) : ZeroRunAt (pre ++ [0]) s (l + 1) := by
  obtain ⟨-, zeros⟩ := h
  have whole : (pre.drop s).take l = pre.drop s := List.take_of_length_le (by simp; omega)
  refine ⟨by simp; omega, ?_⟩
  rw [List.drop_append_of_le_length (by omega), List.take_of_length_le (by simp; omega),
    ← whole, zeros, List.replicate_succ']

theorem ZeroRunAt.start (pre : List UInt16) : ZeroRunAt (pre ++ [0]) pre.length 1 := by
  simp [ZeroRunAt]

theorem ZeroRunAt.split {gs : List UInt16} {s l : Nat} (h : ZeroRunAt gs s l) :
    gs = gs.take s ++ List.replicate l 0 ++ gs.drop (s + l) := by
  obtain ⟨-, zeros⟩ := h
  calc gs = gs.take s ++ gs.drop s := (List.take_append_drop s gs).symm
    _ = gs.take s ++ ((gs.drop s).take l ++ (gs.drop s).drop l) := by
      rw [List.take_append_drop l (gs.drop s)]
    _ = gs.take s ++ List.replicate l 0 ++ gs.drop (s + l) := by
      rw [zeros, List.drop_drop, List.append_assoc]

theorem ZeroRunAt.longer {gs : List UInt16} {cur best : Nat × Nat} (curAt : ZeroRunAt gs cur.1 cur.2)
    (bestAt : ZeroRunAt gs best.1 best.2) :
    ZeroRunAt gs (if best.2 < cur.2 then cur else best).1 (if best.2 < cur.2 then cur else best).2 := by
  split
  · exact curAt
  · exact bestAt

theorem zeroRun_found (rest pre : List UInt16) (cur best : Nat × Nat)
    (bestAt : ZeroRunAt pre best.1 best.2) (curAt : ZeroRunAt pre cur.1 cur.2)
    (curEnds : cur.2 ≠ 0 → cur.1 + cur.2 = pre.length) :
    ZeroRunAt (pre ++ rest) (zeroRun rest pre.length cur best).1 (zeroRun rest pre.length cur best).2 := by
  induction rest generalizing pre cur best with
  | nil => simpa [zeroRun] using bestAt
  | cons g rest ih =>
    obtain ⟨cs, cl⟩ := cur
    obtain ⟨bs, bl⟩ := best
    have shift : pre ++ g :: rest = pre ++ [g] ++ rest := by simp
    have length : pre.length + 1 = (pre ++ [g]).length := by simp
    rw [shift]
    by_cases zero : g = 0
    · subst zero
      by_cases fresh : cl = 0
      · -- a new run starts at this zero
        have grown := ZeroRunAt.start pre
        simp only [zeroRun, beq_self_eq_true, fresh, ↓reduceIte, length]
        exact ih _ _ _ (@ZeroRunAt.longer _ (pre.length, 1) (bs, bl) grown (bestAt.append [0])) grown
          (fun _ => by simp)
      · -- the current run grows by this zero
        have grown := curAt.extend (curEnds fresh)
        have ends := curEnds fresh
        simp only [zeroRun, beq_self_eq_true, beq_iff_eq, fresh, ↓reduceIte, length]
        exact ih _ _ _ (@ZeroRunAt.longer _ (cs, cl + 1) (bs, bl) grown (bestAt.append [0])) grown
          (fun _ => by simp at ends ⊢; omega)
    · simp only [zeroRun, beq_iff_eq, zero, ↓reduceIte, length]
      exact ih _ _ _ (bestAt.append [g]) (ZeroRunAt.empty _) (by simp)

theorem zeroRun_spec (gs : List UInt16) :
    ZeroRunAt gs (zeroRun gs 0 (0, 0) (0, 0)).1 (zeroRun gs 0 (0, 0) (0, 0)).2 := by
  simpa using zeroRun_found gs [] (0, 0) (0, 0) (ZeroRunAt.empty _) (ZeroRunAt.empty _) (by simp)

/-! ### The canonical text reads back -/

theorem parse_of_parseGroups {s : String} {a : Ipv6Addr} (h : parseGroups s.toList = some a.groups) :
    parse? s = some a := by
  simp [parse?, h, a.length_eq]

theorem parseGroups_full (gs : List UInt16) (eight : gs.length = 8) :
    parseGroups (groupText true gs) = some gs := by
  have read := readGroups_groupText true gs (by omega : gs.length ≤ 8) (List.not_mem_nil (a := '.')) rfl
    (by simp)
  rw [List.append_nil] at read
  simp [parseGroups, read, eight]

theorem parseGroups_compressed (H T : List UInt16) (short : H.length + T.length ≤ 7) :
    parseGroups (groupText true H ++ ':' :: ':' :: groupText true T) =
      some (H ++ List.replicate (8 - H.length - T.length) 0 ++ T) := by
  have noDot : '.' ∉ ':' :: ':' :: groupText true T := by
    simpa using dot_not_mem_groupText true T
  have head := readGroups_groupText true H (by omega : H.length ≤ 8) noDot
    (digitRun_stop (digitValue_colon 16) _) (fun k b => readGroups_colons k b _)
  have tail := readGroups_groupText true T (by omega : T.length ≤ 7 - H.length)
    (List.not_mem_nil (a := '.')) rfl (by simp)
  rw [List.append_nil] at tail
  have notEight : H.length ≠ 8 := by omega
  simp [parseGroups, head, tail, notEight]

theorem octets_join (g : UInt16) : (g / 256).toUInt8.toUInt16 * 256 + (g % 256).toUInt8.toUInt16 = g := by
  apply UInt16.toNat_inj.1
  have small := g.toNat_lt
  simp [UInt16.toNat_add, UInt16.toNat_mul, UInt16.toNat_div, UInt16.toNat_mod]
  omega

theorem toIpv4Mapped_some {a : Ipv6Addr} {v : Ipv4Addr} (h : a.toIpv4Mapped? = some v) :
    ∃ hi lo, a.groups = [0, 0, 0, 0, 0, 0xFFFF, hi, lo] ∧
      v.octets = [(hi / 256).toUInt8, (hi % 256).toUInt8, (lo / 256).toUInt8, (lo % 256).toUInt8] := by
  unfold toIpv4Mapped? at h
  split at h
  · rename_i hi lo groups
    simp only [Option.some.injEq] at h
    exact ⟨hi, lo, groups, by rw [← h]⟩
  · simp at h

theorem readGroups_mapped (v : Ipv4Addr) {a b c d : UInt8} (oct : v.octets = [a, b, c, d]) :
    readGroups 7 true ('f' :: 'f' :: 'f' :: 'f' :: ':' :: v.render.toList) =
      ([0xFFFF, a.toUInt16 * 256 + b.toUInt16, c.toUInt16 * 256 + d.toUInt16], true, []) := by
  have noIpv4 : Ipv4Addr.read ('f' :: 'f' :: 'f' :: 'f' :: ':' :: v.render.toList) = none := by
    simp [Ipv4Addr.read, readNumber_stop (by decide : digitValue 10 'f' = none)]
  have ffff : readNumber 16 4 0xFFFF true ('f' :: 'f' :: 'f' :: 'f' :: ':' :: v.render.toList) =
      some (0xFFFF, ':' :: v.render.toList) :=
    readNumber_toDigits (n := 0xFFFF) (.inr rfl) (by decide) (by decide)
      (digitRun_stop (digitValue_colon 16) _)
  have dotted := Ipv4Addr.read_render v (rfl : digitRun 10 [] = ([], []))
  rw [List.append_nil, oct] at dotted
  simp [readGroups, separated, expectChar, noIpv4, ffff, dotted]

theorem parseGroups_mapped (v : Ipv4Addr) {a b c d : UInt8} (oct : v.octets = [a, b, c, d]) :
    parseGroups ("::ffff:" ++ v.render).toList =
      some [0, 0, 0, 0, 0, 0xFFFF, a.toUInt16 * 256 + b.toUInt16, c.toUInt16 * 256 + d.toUInt16] := by
  have text : ("::ffff:" ++ v.render).toList =
      ':' :: ':' :: 'f' :: 'f' :: 'f' :: 'f' :: ':' :: v.render.toList := by simp
  simp [text, parseGroups, readGroups_colons, readGroups_mapped v oct]

theorem parse_render (a : Ipv6Addr) : parse? a.render = some a := by
  unfold render
  cases mapped : a.toIpv4Mapped? with
  | some v =>
    obtain ⟨hi, lo, groups, oct⟩ := toIpv4Mapped_some mapped
    apply parse_of_parseGroups
    rw [parseGroups_mapped v oct, groups, octets_join, octets_join]
  | none =>
    obtain ⟨gs, eight⟩ := a
    have run := zeroRun_spec gs
    generalize zeroRun gs 0 (0, 0) (0, 0) = found at run ⊢
    obtain ⟨start, len⟩ := found
    apply parse_of_parseGroups
    dsimp only
    split
    · -- the zero run became `::`
      rename_i long
      have fit := run.1
      have text : (hexGroups (gs.take start) ++ "::" ++ hexGroups (gs.drop (start + len))).toList =
          groupText true (gs.take start) ++ ':' :: ':' :: groupText true (gs.drop (start + len)) := by
        simp [hexGroups_toList]
      rw [text, parseGroups_compressed _ _ (by simp; omega)]
      have zeros : 8 - (gs.take start).length - (gs.drop (start + len)).length = len := by simp; omega
      rw [zeros, ← run.split]
    · rw [hexGroups_toList, parseGroups_full gs eight]

/-! ### What the reader accepts -/

theorem separated_some {first : Bool} {cs rest : List Char} (h : separated first cs = some rest) :
    cs = (if first then [] else [':']) ++ rest := by
  cases first with
  | true => simpa [separated, eq_comm] using h
  | false => simpa [separated] using expectChar_some h

theorem separator_chars (first : Bool) : ∀ c ∈ (if first then [] else [':']), AddressChar c := by
  have colon : AddressChar ':' := .inr (.inl rfl)
  cases first <;> simp [colon]

theorem readGroups_consumes (slots : Nat) (first : Bool) (cs : List Char) :
    ∀ gs v4 r, readGroups slots first cs = (gs, v4, r) →
      ∃ used, cs = used ++ r ∧ (∀ c ∈ used, AddressChar c) ∧ gs.length ≤ slots ∧
        used.length ≤ 5 * gs.length + (if v4 then 6 else 0) - (if first then 1 else 0) := by
  fun_induction readGroups slots first cs with
  | case1 first cs =>
    intro gs v4 r h
    simp only [Prod.mk.injEq] at h
    obtain ⟨rfl, rfl, rfl⟩ := h
    exact ⟨[], by simp, by simp, by simp, by simp⟩
  | case2 slots first cs embedded rest a b c d found =>
    intro gs v4 r h
    simp only [Prod.mk.injEq] at h
    obtain ⟨rfl, rfl, rfl⟩ := h
    have tried : (if 1 ≤ slots then (separated first cs).bind Ipv4Addr.read else none) =
        some ([a, b, c, d], rest) := found
    split at tried
    · rename_i two
      obtain ⟨after, sep, read⟩ := Option.bind_eq_some_iff.1 tried
      obtain ⟨-, used, rfl, short, -, chars⟩ := Ipv4Addr.read_consumes read
      refine ⟨(if first then [] else [':']) ++ used, by simp [separated_some sep],
        List.forall_mem_append.2 ⟨separator_chars first, chars⟩, by simp; omega, ?_⟩
      cases first <;> simp <;> omega
    · simp at tried
  | case3 slots first cs embedded os rest found notFour =>
    intro gs v4 r h
    simp only [Prod.mk.injEq] at h
    obtain ⟨rfl, rfl, rfl⟩ := h
    exact ⟨[], by simp, by simp, by simp, by simp⟩
  | case4 slots first cs embedded noIpv4 g rest found gs v4 r later ih =>
    intro gs' v4' r' h
    simp only [Prod.mk.injEq] at h
    obtain ⟨rfl, rfl, rfl⟩ := h
    obtain ⟨after, sep, read⟩ := Option.bind_eq_some_iff.1 found
    obtain ⟨digits, rfl, short, hex⟩ := readNumber_consumes read
    obtain ⟨used, rfl, chars, fit, bound⟩ := ih gs v4 r later
    have hexChars : ∀ c ∈ digits, AddressChar c := fun c mem => .inl (hex c mem)
    refine ⟨(if first then [] else [':']) ++ digits ++ used, by simp [separated_some sep],
      List.forall_mem_append.2 ⟨List.forall_mem_append.2 ⟨separator_chars first, hexChars⟩, chars⟩,
      by simp; omega, ?_⟩
    cases first <;> cases v4 <;> simp at bound ⊢ <;> omega
  | case5 slots first cs embedded noIpv4 noGroup =>
    intro gs v4 r h
    simp only [Prod.mk.injEq] at h
    obtain ⟨rfl, rfl, rfl⟩ := h
    exact ⟨[], by simp, by simp, by simp, by simp⟩

theorem parseGroups_consumes {cs : List Char} {gs : List UInt16} (h : parseGroups cs = some gs) :
    cs.length ≤ 45 ∧ ∀ c ∈ cs, AddressChar c := by
  unfold parseGroups at h
  rcases headRead : readGroups 8 true cs with ⟨head, headV4, rest⟩
  obtain ⟨used, rfl, chars, fit, bound⟩ := readGroups_consumes 8 true cs _ _ _ headRead
  simp only [headRead] at h
  split at h
  · -- all eight groups before the end of the text
    rename_i eight
    split at h
    · rename_i empty
      rw [List.isEmpty_iff] at empty
      subst empty
      refine ⟨?_, by simpa using chars⟩
      cases headV4 <;> simp at bound ⊢ <;> omega
    · simp at h
  · split at h
    · simp at h
    · rename_i headV4False
      split at h
      · -- a `::`, then the groups after it
        rename_i after
        rcases tailRead : readGroups (7 - head.length) true after with ⟨tail, tailV4, left⟩
        obtain ⟨more, rfl, moreChars, tailFit, tailBound⟩ :=
          readGroups_consumes (7 - head.length) true after _ _ _ tailRead
        simp only [tailRead] at h
        split at h
        · rename_i empty
          rw [List.isEmpty_iff] at empty
          subst empty
          have colon : AddressChar ':' := .inr (.inl rfl)
          refine ⟨?_, ?_⟩
          · simp only [Bool.not_eq_true] at headV4False
            subst headV4False
            cases tailV4 <;> simp at bound tailBound ⊢ <;> omega
          · simp only [List.append_nil, List.forall_mem_append, List.forall_mem_cons]
            exact ⟨chars, colon, colon, moreChars⟩
        · simp at h
      · simp at h

theorem parseGroups_of_parse {A : String} {a : Ipv6Addr} (h : parse? A = some a) :
    parseGroups A.toList = some a.groups := by
  unfold parse? at h
  split at h
  · split at h
    · simp only [Option.some.injEq] at h
      rw [← h]
      assumption
    · simp at h
  · simp at h

theorem parse_text {A : String} {a : Ipv6Addr} (h : parse? A = some a) :
    A.utf8ByteSize ≤ 45 ∧ ∀ c ∈ A.toList, AddressChar c := by
  obtain ⟨short, chars⟩ := parseGroups_consumes (parseGroups_of_parse h)
  rw [utf8ByteSize_of_ascii fun c mem => (chars c mem).utf8Size]
  exact ⟨short, chars⟩

end Ipv6Addr

end UpperEcho.Net
