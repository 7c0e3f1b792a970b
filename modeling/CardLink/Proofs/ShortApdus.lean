import Mathlib.Tactic.SplitIfs
import CardLink.IsoWrapping

/-!
# Reading and writing short APDUs

Header, data field and expected length of a command are told apart by the total length alone, so
every combination has to come out with a length, or a length byte, of its own. One does not: an
empty data field with nothing after it is the single byte 0, and so is an expected length.

1. A body is read as the data and the expected length that were written as that body, only an empty
   data field is not kept (`readBody_dataField`, `eq_of_readBody`).
2. So a command that was written is read as itself or, with an empty data field, as what `readBack`
   says, and nothing else is read (`ofBytes_eq_ok_iff`).
3. The reader looks at no position outside of the string (`readAt?_eq`).
4. The command around a native frame has no empty data field, and is read back as it was
   (`wrap_readable`).
-/

namespace CardLink.Apdu.Command

variable {c : Command} {raw : Bytes}

/-! ## Writing -/

theorem toBytes_eq_ok_iff : c.toBytes = .ok raw ↔ (c.data.getD []).length ≤ 255 ∧
    raw = c.cla :: c.ins :: c.p1 :: c.p2 :: (dataField c.data ++ c.le.toList) := by
  unfold toBytes
  split_ifs with hlong
  · constructor
    · intro h
      cases h
    · rintro ⟨hlength, -⟩
      omega
  · constructor
    · rintro ⟨⟩
      exact ⟨Nat.le_of_not_lt hlong, rfl⟩
    · rintro ⟨-, rfl⟩
      rfl

theorem toBytes_eq_error_iff {err : Error} : c.toBytes = .error err ↔
    255 < (c.data.getD []).length ∧ err = .commandLength (c.data.getD []).length := by
  unfold toBytes
  split_ifs with hlong
  · constructor
    · rintro ⟨⟩
      exact ⟨hlong, rfl⟩
    · rintro ⟨-, rfl⟩
      rfl
  · constructor
    · intro h
      cases h
    · rintro ⟨hlong', -⟩
      exact absurd hlong' hlong

theorem length_of_toBytes (h : c.toBytes = .ok raw) : raw.length = c.length := by
  obtain ⟨-, rfl⟩ := toBytes_eq_ok_iff.mp h
  unfold length dataField
  cases c.data with
  | none =>
    simp only [List.length_cons, List.length_append, List.length_nil]
    omega
  | some bs =>
    simp only [List.length_cons, List.length_append]
    omega

/-! ## The part after the header -/

theorem toNat_lengthByte {n : Nat} (h : n ≤ 255) : (UInt8.ofNat n).toNat = n :=
  UInt8.toNat_ofNat_of_lt' (Nat.lt_succ_of_le h)

theorem eq_nil_of_lengthByte {bs : Bytes} (h : bs.length ≤ 255)
    (hzero : UInt8.ofNat bs.length = 0) : bs = [] := by
  have hlength := congrArg UInt8.toNat hzero
  rw [toNat_lengthByte h] at hlength
  exact List.eq_nil_of_length_eq_zero hlength

/-- The parts after the header are told apart again. An empty data field is not: it looks like an
expected length. -/
theorem readBody_dataField {data : Option Bytes} {le : Option UInt8} (hne : data ≠ some [])
    (hlength : (data.getD []).length ≤ 255) :
    readBody (dataField data ++ le.toList) = some (data, le) := by
  rcases data with _ | _ | ⟨b, bs⟩
  · cases le <;> rfl
  · exact absurd rfl hne
  · have hsize : (UInt8.ofNat (b :: bs).length).toNat = (b :: bs).length := toNat_lengthByte hlength
    have htake : (b :: (bs ++ le.toList)).take (b :: bs).length = b :: bs :=
      List.take_left
    have hdrop : (b :: (bs ++ le.toList)).drop (b :: bs).length = le.toList := List.drop_left
    have hroom : ¬(b :: (bs ++ le.toList)).length < (b :: bs).length := by
      simp only [List.length_cons, List.length_append]
      omega
    simp only [dataField, List.cons_append, readBody, hsize, htake, hdrop, if_neg hroom]
    cases le <;> rfl

/-- An empty data field is dropped before an expected length, and taken for one otherwise. -/
theorem readBody_empty (le : Option UInt8) :
    readBody (dataField (some []) ++ le.toList) = some (none, some (le.getD 0)) := by
  cases le <;> rfl

/-- Two bytes or more are read as a length byte, the data it counts and an expected length. -/
theorem readBody_cons_cons {lc b : UInt8} {bs : Bytes} {data : Option Bytes} {le : Option UInt8} :
    readBody (lc :: b :: bs) = some (data, le) ↔ lc.toNat ≤ (b :: bs).length ∧
      (b :: bs).drop lc.toNat = le.toList ∧
      (if lc.toNat = 0 then none else some ((b :: bs).take lc.toNat)) = data := by
  have hempty : ((b :: bs).take lc.toNat).isEmpty = true ↔ lc.toNat = 0 := by
    rw [List.isEmpty_iff, List.take_eq_nil_iff]
    simp
  simp only [readBody, hempty]
  generalize (if lc.toNat = 0 then none else some ((b :: bs).take lc.toNat)) = field
  by_cases hshort : (b :: bs).length < lc.toNat
  · rw [if_pos hshort]
    constructor
    · intro h
      cases h
    · rintro ⟨hfits, -⟩
      omega
  · rw [if_neg hshort, and_iff_right (Nat.le_of_not_lt hshort)]
    generalize (b :: bs).drop lc.toNat = rest
    rcases rest with _ | ⟨l, _ | ⟨l', rest⟩⟩ <;> cases le <;> simp [and_comm]

theorem readBody_eq_none {lc b : UInt8} {bs : Bytes}
    (h : ∀ le : Option UInt8, lc.toNat ≤ (b :: bs).length → (b :: bs).drop lc.toNat ≠ le.toList) :
    readBody (lc :: b :: bs) = none := by
  refine Option.eq_none_iff_forall_ne_some.mpr ?_
  rintro ⟨data, le⟩ hbody
  obtain ⟨hfits, hdrop, -⟩ := readBody_cons_cons.mp hbody
  exact h le hfits hdrop

/-- What is read from a body was written as that body, or it is an expected length alone and the
body has an empty data field before it. -/
theorem eq_of_readBody {body : Bytes} {data : Option Bytes} {le : Option UInt8}
    (h : readBody body = some (data, le)) : data ≠ some [] ∧ (data.getD []).length ≤ 255 ∧
      (body = dataField data ++ le.toList ∨
        data = none ∧ le ≠ none ∧ body = dataField (some []) ++ le.toList) := by
  match body, h with
  | [], h =>
    cases h
    exact ⟨by decide, by decide, Or.inl rfl⟩
  | [l], h =>
    cases h
    exact ⟨by decide, by decide, Or.inl rfl⟩
  | lc :: b :: bs, h =>
    obtain ⟨hfits, hdrop, hdata⟩ := readBody_cons_cons.mp h
    by_cases hlc : lc.toNat = 0
    · rw [if_pos hlc] at hdata
      rw [hlc, List.drop_zero] at hdrop
      have hzero : lc = 0 := UInt8.toNat_inj.mp hlc
      subst hdata hzero
      refine ⟨by decide, by decide, Or.inr ⟨rfl, ?_, by rw [hdrop]; rfl⟩⟩
      rintro rfl
      cases hdrop
    · rw [if_neg hlc] at hdata
      have hlength : ((b :: bs).take lc.toNat).length = lc.toNat := List.length_take_of_le hfits
      have hsplit : (b :: bs).take lc.toNat ++ le.toList = b :: bs := by
        rw [← hdrop, List.take_append_drop]
      subst hdata
      refine ⟨?_, ?_, Or.inl ?_⟩
      · intro hnil
        rw [Option.some.inj hnil, List.length_nil] at hlength
        exact hlc hlength.symm
      · exact Nat.le_trans (Nat.le_of_eq hlength) (Nat.le_of_lt_succ lc.toNat_lt)
      · rw [dataField, hlength, UInt8.ofNat_toNat, List.cons_append, hsplit]

/-! ## Reading -/

theorem ofBytes_eq_ok : ofBytes raw = .ok c ↔ ∃ body,
    raw = c.cla :: c.ins :: c.p1 :: c.p2 :: body ∧ readBody body = some (c.data, c.le) := by
  constructor
  · intro h
    unfold ofBytes at h
    split at h
    · next cla ins p1 p2 body =>
      split at h
      · next data le hbody =>
        cases h
        exact ⟨body, rfl, hbody⟩
      · cases h
    · cases h
  · rintro ⟨body, rfl, hbody⟩
    simp only [ofBytes, hbody]

/-- Whatever cannot be read is refused with its length. -/
theorem eq_of_ofBytes_error {err : Error} (h : ofBytes raw = .error err) :
    err = .commandLength raw.length := by
  unfold ofBytes at h
  split at h
  · split at h
    · cases h
    · cases h
      rfl
  · cases h
    rfl

/-- The command that is read where the given one was written. -/
def readBack (c : Command) : Command :=
  if c.data = some [] then { c with data := none, le := some (c.le.getD 0) } else c

theorem ofBytes_of_toBytes (h : c.toBytes = .ok raw) : ofBytes raw = .ok c.readBack := by
  obtain ⟨hlength, rfl⟩ := toBytes_eq_ok_iff.mp h
  unfold readBack
  split_ifs with hempty
  · refine ofBytes_eq_ok.mpr ⟨_, rfl, ?_⟩
    rw [hempty]
    exact readBody_empty c.le
  · exact ofBytes_eq_ok.mpr ⟨_, rfl, readBody_dataField hempty hlength⟩

theorem ofBytes_toBytes (hne : c.data ≠ some []) (h : c.toBytes = .ok raw) :
    ofBytes raw = .ok c := by
  rw [ofBytes_of_toBytes h, readBack, if_neg hne]

/-- A command that is read was written as that string, or it has an expected length, and the string
an empty data field before it. -/
theorem toBytes_of_ofBytes (h : ofBytes raw = .ok c) : c.data ≠ some [] ∧ (c.toBytes = .ok raw ∨
    c.data = none ∧ c.le ≠ none ∧ { c with data := some [] }.toBytes = .ok raw) := by
  obtain ⟨body, rfl, hbody⟩ := ofBytes_eq_ok.mp h
  obtain ⟨hne, hlength, rfl | ⟨hdata, hle, rfl⟩⟩ := eq_of_readBody hbody
  · exact ⟨hne, Or.inl (toBytes_eq_ok_iff.mpr ⟨hlength, rfl⟩)⟩
  · exact ⟨hne, Or.inr ⟨hdata, hle, rfl⟩⟩

/-- What is read is what one of the commands written as that string is read as. -/
theorem ofBytes_eq_ok_iff : ofBytes raw = .ok c ↔
    ∃ written : Command, written.toBytes = .ok raw ∧ written.readBack = c := by
  constructor
  · intro h
    obtain ⟨hne, hwritten | ⟨hdata, hle, hwritten⟩⟩ := toBytes_of_ofBytes h
    · exact ⟨c, hwritten, if_neg hne⟩
    · refine ⟨_, hwritten, ?_⟩
      obtain ⟨l, hl⟩ := Option.ne_none_iff_exists'.mp hle
      rw [readBack, if_pos rfl]
      cases c
      cases hdata
      cases hl
      rfl
  · rintro ⟨written, hwritten, rfl⟩
    exact ofBytes_of_toBytes hwritten

/-- The string of a command that is read is written for it again, unless it has an empty data field
before the expected length. -/
theorem toBytes_iff_of_ofBytes (h : ofBytes raw = .ok c) :
    c.toBytes = .ok raw ↔ ¬(raw.length = 6 ∧ raw[4]? = some 0) := by
  obtain ⟨hne, hwritten | ⟨hdata, hle, hwritten⟩⟩ := toBytes_of_ofBytes h
  · refine iff_of_true hwritten ?_
    rintro ⟨hsix, hzero⟩
    rw [length_of_toBytes hwritten] at hsix
    obtain ⟨hlength, rfl⟩ := toBytes_eq_ok_iff.mp hwritten
    obtain ⟨cla, ins, p1, p2, data, le⟩ := c
    rcases data with _ | bs
    · cases le <;> cases hsix
    · have hnil : bs = [] := eq_nil_of_lengthByte hlength (Option.some.inj hzero)
      exact hne (congrArg some hnil)
  · obtain ⟨l, hl⟩ := Option.ne_none_iff_exists'.mp hle
    obtain ⟨-, rfl⟩ := toBytes_eq_ok_iff.mp hwritten
    refine iff_of_false (fun hagain => ?_) (fun hother => hother ?_)
    · have hlength := length_of_toBytes hagain
      rw [length, hdata, hl] at hlength
      cases hlength
    · rw [hl]
      exact ⟨rfl, rfl⟩

/-! ## Reading by position -/

/-- The `n` bytes of a string from position `i` on, where it has them all. -/
def slice? (raw : Bytes) (i n : Nat) : Option Bytes :=
  if i + n ≤ raw.length then some ((raw.drop i).take n) else none

/-- The data field that a length byte announces, read by position. -/
def fieldAt? (raw : Bytes) (n : Nat) : Option (Option Bytes) :=
  if n = 0 then some none else some <$> slice? raw 5 n

/-- Reading by position: the length of the string and the byte at position 4 decide which others are
looked at. There is no result if one of them lies outside of the string. -/
def readAt? (raw : Bytes) : Option (Except Error Command) := do
  if raw.length < 4 then return .error (.commandLength raw.length)
  let c : Command := { cla := ← raw[0]?, ins := ← raw[1]?, p1 := ← raw[2]?, p2 := ← raw[3]? }
  if raw.length = 4 then return .ok c
  let lc ← raw[4]?
  if raw.length = 5 then return .ok { c with le := some lc }
  if raw.length < lc.toNat + 5 then return .error (.commandLength raw.length)
  let data ← fieldAt? raw lc.toNat
  if raw.length = lc.toNat + 5 then return .ok { c with data }
  if raw.length ≠ lc.toNat + 6 then return .error (.commandLength raw.length)
  let le ← raw[lc.toNat + 5]?
  return .ok { c with data, le := some le }

theorem fieldAt?_eq {n : Nat} (h : n + 5 ≤ raw.length) :
    fieldAt? raw n = some (if n = 0 then none else some ((raw.drop 5).take n)) := by
  have hinside : 5 + n ≤ raw.length := by omega
  unfold fieldAt? slice?
  by_cases hn : n = 0
  · rw [if_pos hn, if_pos hn]
  · rw [if_neg hn, if_neg hn, if_pos hinside]
    rfl

/-- From six bytes on, the length byte decides what the rest of the string has to be. -/
theorem readAt?_six (cla ins p1 p2 lc b : UInt8) (bs : Bytes) :
    readAt? (cla :: ins :: p1 :: p2 :: lc :: b :: bs) =
      let c : Command := { cla, ins, p1, p2 }
      let data := if lc.toNat = 0 then none else some ((b :: bs).take lc.toNat)
      let refusal : Except Error Command := .error (.commandLength ((b :: bs).length + 5))
      if (b :: bs).length < lc.toNat then some refusal
      else if (b :: bs).length = lc.toNat then some (.ok { c with data })
      else if (b :: bs).length ≠ lc.toNat + 1 then some refusal
      else (b :: bs)[lc.toNat]?.bind fun le => some (.ok { c with data, le := some le }) := by
  have hlength : (cla :: ins :: p1 :: p2 :: lc :: b :: bs).length = (b :: bs).length + 5 := rfl
  have hsix : ¬(b :: bs).length + 5 < 4 ∧ (b :: bs).length + 5 ≠ 4 ∧ (b :: bs).length + 5 ≠ 5 := by
    rw [List.length_cons]
    omega
  have hlast : (b :: bs).length + 5 ≠ lc.toNat + 6 ↔ (b :: bs).length ≠ lc.toNat + 1 := by omega
  simp only [readAt?, hlength, hsix, hlast, if_false, List.getElem?_cons_zero,
    List.getElem?_cons_succ, Option.bind_eq_bind, Option.bind_some, Option.pure_def,
    Nat.add_lt_add_iff_right, Nat.add_right_cancel_iff]
  by_cases hshort : (b :: bs).length < lc.toNat
  · rw [if_pos hshort, if_pos hshort]
  · rw [if_neg hshort, if_neg hshort, fieldAt?_eq (by rw [hlength]; omega), Option.bind_some]
    rfl

theorem readAt?_eq (raw : Bytes) : readAt? raw = some (ofBytes raw) := by
  match raw with
  | [] | [_] | [_, _] | [_, _, _] | [_, _, _, _] | [_, _, _, _, _] => rfl
  | cla :: ins :: p1 :: p2 :: lc :: b :: bs =>
    rw [readAt?_six]
    unfold ofBytes
    by_cases hshort : (b :: bs).length < lc.toNat
    · have hnone := readBody_eq_none fun _ hfits => absurd hshort (Nat.not_lt_of_le hfits)
      simp only [if_pos hshort, hnone]
      rfl
    · have hfits : lc.toNat ≤ (b :: bs).length := Nat.le_of_not_lt hshort
      have hlast : ((b :: bs).drop lc.toNat)[0]? = (b :: bs)[lc.toNat]? := List.getElem?_drop
      have hrest : ((b :: bs).drop lc.toNat).length = (b :: bs).length - lc.toNat :=
        List.length_drop
      simp only [if_neg hshort, ← hlast]
      cases hdrop : (b :: bs).drop lc.toNat with
      | nil =>
        rw [hdrop, List.length_nil] at hrest
        have hnone : (b :: bs).drop lc.toNat = Option.toList none := hdrop
        rw [if_pos (by omega), readBody_cons_cons.mpr ⟨hfits, hnone, rfl⟩]
      | cons l rest =>
        rw [hdrop, List.length_cons] at hrest
        rw [if_neg (by omega)]
        cases rest with
        | nil =>
          rw [List.length_nil] at hrest
          have hsome : (b :: bs).drop lc.toNat = (some l).toList := hdrop
          rw [if_neg (by omega), readBody_cons_cons.mpr ⟨hfits, hsome, rfl⟩]
          rfl
        | cons l' rest =>
          rw [List.length_cons] at hrest
          rw [if_pos (by omega), readBody_eq_none]
          · rfl
          · intro le _ hle
            rw [hdrop] at hle
            cases le <;> cases hle

/-! ## What is read of what was written -/

/-- Two commands agree in header and data. No data and an empty data field count as the same. -/
structure Agrees (c c' : Command) : Prop where
  cla : c.cla = c'.cla
  ins : c.ins = c'.ins
  p1 : c.p1 = c'.p1
  p2 : c.p2 = c'.p2
  data : c.data.getD [] = c'.data.getD []

theorem agrees_readBack (c : Command) : c.readBack.Agrees c := by
  unfold readBack
  split_ifs with hempty
  · exact ⟨rfl, rfl, rfl, rfl, by rw [hempty]; rfl⟩
  · exact ⟨rfl, rfl, rfl, rfl, rfl⟩

theorem le_readBack_iff (c : Command) :
    c.readBack.le = c.le ↔ ¬(c.data = some [] ∧ c.le = none) := by
  unfold readBack
  split_ifs with hempty
  · rw [and_iff_right hempty]
    cases c.le with
    | none => simp
    | some l => simp
  · exact iff_of_true rfl fun h => hempty h.1

/-- **Reading back.** A command is refused exactly if its data does not fit a length byte. Otherwise
it takes as many bytes as its length says, and from them a command with the same header and data is
read. The expected length is the same too, unless an empty data field was written without one. -/
theorem read_back_iff (c : Command) :
    (∀ raw, c.toBytes = .ok raw → raw.length = c.length ∧ ∃ c', ofBytes raw = .ok c' ∧
      c'.Agrees c ∧ (c'.le = c.le ↔ ¬(c.data = some [] ∧ c.le = none))) ∧
    ((∃ err, c.toBytes = .error err) ↔ 255 < (c.data.getD []).length) := by
  refine ⟨fun raw h => ?_, ?_⟩
  · exact ⟨length_of_toBytes h, _, ofBytes_of_toBytes h, agrees_readBack c, le_readBack_iff c⟩
  · constructor
    · rintro ⟨err, h⟩
      exact (toBytes_eq_error_iff.mp h).1
    · intro hlong
      exact ⟨_, toBytes_eq_error_iff.mpr ⟨hlong, rfl⟩⟩

/-- The longest data field, without an expected length, is read back without one. -/
theorem read_back_iff_longest :
    let c : Command :=
      { cla := 0x90, ins := 0x8D, p1 := 0, p2 := 0, data := some (List.replicate 255 0) }
    ∃ raw c', c.toBytes = .ok raw ∧ raw.length = 260 ∧ ofBytes raw = .ok c' ∧ c'.le = none := by
  intro c
  obtain ⟨hread, -⟩ := read_back_iff c
  obtain ⟨raw, hraw⟩ : ∃ raw, c.toBytes = .ok raw :=
    ⟨_, toBytes_eq_ok_iff.mpr ⟨Nat.le_of_eq List.length_replicate, rfl⟩⟩
  obtain ⟨hlength, c', hc', -, hle⟩ := hread raw hraw
  have hdata : ¬(c.data = some [] ∧ c.le = none) := fun h => by cases h.1
  have hsize : c.length = 260 := by decide +kernel
  exact ⟨raw, c', hraw, hlength.trans hsize, hc', hle.mpr hdata⟩

/-- An empty data field without an expected length is read as one. -/
theorem le_of_empty_field :
    let c : Command := { cla := 0x90, ins := 0x60, p1 := 0, p2 := 0, data := some [] }
    ∃ raw c', c.toBytes = .ok raw ∧ ofBytes raw = .ok c' ∧ c.le = none ∧ c'.le = some 0 :=
  ⟨_, _, rfl, rfl, rfl, rfl⟩

/-- **The reader's language.** Exactly the strings that some command is written as are read, without
looking at a position outside of the string, and all others are refused with their length. What is
read is written as the same string again, unless this has six bytes and a data field of length 0. -/
theorem reads_iff_written (raw : Bytes) :
    ((∃ c, ofBytes raw = .ok c) ↔
      ∃ c : Command, (c.data.getD []).length ≤ 255 ∧ c.toBytes = .ok raw) ∧
    (∀ err, ofBytes raw = .error err ↔
      err = .commandLength raw.length ∧ ∀ c : Command, c.toBytes ≠ .ok raw) ∧
    readAt? raw = some (ofBytes raw) ∧
    ∀ c, ofBytes raw = .ok c → (c.toBytes = .ok raw ↔ ¬(raw.length = 6 ∧ raw[4]? = some 0)) := by
  refine ⟨⟨?_, ?_⟩, fun err => ⟨fun h => ?_, ?_⟩, readAt?_eq raw, fun c => toBytes_iff_of_ofBytes⟩
  · rintro ⟨c, h⟩
    obtain ⟨written, hwritten, -⟩ := ofBytes_eq_ok_iff.mp h
    exact ⟨written, (toBytes_eq_ok_iff.mp hwritten).1, hwritten⟩
  · rintro ⟨c, -, h⟩
    exact ⟨_, ofBytes_of_toBytes h⟩
  · refine ⟨eq_of_ofBytes_error h, fun c hc => ?_⟩
    rw [ofBytes_of_toBytes hc] at h
    cases h
  · rintro ⟨rfl, hnone⟩
    cases h : ofBytes raw with
    | ok c =>
      obtain ⟨written, hwritten, -⟩ := ofBytes_eq_ok_iff.mp h
      exact absurd hwritten (hnone written)
    | error err => rw [eq_of_ofBytes_error h]

/-- One byte of data before an expected length is written again, and none is not. -/
theorem reads_iff_written_short :
    let raw : Bytes := [0x90, 0x5A, 0, 0, 1, 7, 0]
    let raw' : Bytes := [0x90, 0x5A, 0, 0, 0, 7]
    ∃ c c', ofBytes raw = .ok c ∧ c.toBytes = .ok raw ∧
      ofBytes raw' = .ok c' ∧ c'.toBytes ≠ .ok raw' := by
  intro raw raw'
  obtain ⟨-, -, -, hagain⟩ := reads_iff_written raw
  obtain ⟨-, -, -, hagain'⟩ := reads_iff_written raw'
  refine ⟨_, _, rfl, (hagain _ rfl).mpr (by decide), rfl, fun h => ?_⟩
  exact (hagain' _ rfl).mp h ⟨rfl, rfl⟩

end CardLink.Apdu.Command

namespace CardLink.IsoWrapping

/-! ## Native frames -/

theorem command_getD (ins : UInt8) (data : Bytes) : (command ins data).data.getD [] = data := by
  cases data <;> rfl

/-- A frame with a code and room for the rest is wrapped, and read back as it was. -/
theorem wrap_readable (ins : UInt8) {data : Bytes} (hlength : data.length ≤ 255) :
    ∃ raw, wrap (ins :: data) = .ok raw ∧ Apdu.Command.ofBytes raw = .ok (command ins data) := by
  have hne : (command ins data).data ≠ some [] := by
    cases data <;> exact fun h => by cases h
  obtain ⟨raw, hraw⟩ : ∃ raw, (command ins data).toBytes = .ok raw :=
    ⟨_, Apdu.Command.toBytes_eq_ok_iff.mpr ⟨by rwa [command_getD], rfl⟩⟩
  refine ⟨raw, ?_, Apdu.Command.ofBytes_toBytes hne hraw⟩
  unfold wrap
  simp only [hraw]
  rfl

end CardLink.IsoWrapping
