import Mathlib.Data.List.Basic
import Mathlib.Tactic.SplitIfs
import CardLink.Key.Derivation

/-!
# What a session key tells of the nonces

Session keys are new as soon as one party draws a new nonce. The vector of an AES handshake mixes
the nonces with an exclusive or, so it does not tell both of them, but it tells each of them to whom
knows the other. A session key of a triple DES handshake is put together from pieces of the nonces
and tells exactly these pieces.

1. Two vectors are equal exactly if their labels are and the parts of the nonces that stand in clear
   and the mixture of the others (`vector_inj`).
2. A key takes four bytes of both nonces at certain positions (`positions`), and two session keys
   under it are equal exactly if the nonces agree there (`deriveSession_inj`).
-/

namespace CardLink

/-! ## After an AES handshake -/

namespace SessionKeys

variable {label label' : Octets 2} {a a' b b' : Nonce}

theorem vector_inj : vector label a b = vector label' a' b' ↔ label = label' ∧
    a.toList.take 2 = a'.toList.take 2 ∧
    Bytes.xor ((a.toList.drop 2).take 6) (b.toList.take 6) =
      Bytes.xor ((a'.toList.drop 2).take 6) (b'.toList.take 6) ∧
    b.toList.drop 6 = b'.toList.drop 6 ∧ a.toList.drop 8 = a'.toList.drop 8 := by
  constructor
  · intro h
    have hbytes := congrArg Octets.toList h
    simp only [vector, context, List.append_assoc] at hbytes
    obtain ⟨hlabel, hbytes⟩ := Octets.toList_append_inj.mp hbytes
    have hbytes := List.append_cancel_left hbytes
    obtain ⟨hfront, hbytes⟩ := List.append_inj hbytes (by simp)
    obtain ⟨hmixed, hbytes⟩ := List.append_inj hbytes (by simp)
    obtain ⟨hrest, hrest'⟩ := List.append_inj hbytes (by simp)
    exact ⟨hlabel, hfront, hmixed, hrest, hrest'⟩
  · rintro ⟨rfl, hfront, hmixed, hrest, hrest'⟩
    apply Octets.ext_toList
    simp only [vector, context, hfront, hmixed, hrest, hrest']

/-- The parts of the host's nonce, put together again. -/
theorem append_parts (x : Bytes) : x.take 2 ++ ((x.drop 2).take 6 ++ x.drop 8) = x := by
  have hback : x.drop 8 = (x.drop 2).drop 6 := by rw [List.drop_drop]
  rw [hback, List.take_append_drop, List.take_append_drop]

theorem vector_right_injective (label : Octets 2) (a : Nonce) :
    Function.Injective (vector label a) := by
  intro b b' h
  obtain ⟨-, -, hmixed, hrest, -⟩ := vector_inj.mp h
  rw [Bytes.xor_right_inj (by simp) (by simp)] at hmixed
  apply Octets.ext_toList
  rw [← List.take_append_drop 6 b.toList, hmixed, hrest, List.take_append_drop]

theorem vector_left_injective (label : Octets 2) (b : Nonce) :
    Function.Injective fun a => vector label a b := by
  intro a a' h
  obtain ⟨-, hfront, hmixed, -, hback⟩ := vector_inj.mp h
  rw [Bytes.xor_left_inj (by simp) (by simp)] at hmixed
  apply Octets.ext_toList
  rw [← append_parts a.toList, hfront, hmixed, hback, append_parts]

/-- Both nonces together are not told: what one changes in the mixture the other can undo. -/
example :
    vector encLabel (Octets.zero 16) (Octets.zero 16) =
      vector encLabel (Octets.fit 16 [0, 0, 1]) (Octets.fit 16 [1]) := by decide

theorem encLabel_ne_macLabel : encLabel ≠ macLabel := by decide

end SessionKeys

/-! ## After a triple DES handshake -/

/-- Two strings have the same four bytes from each of the positions on. -/
def AgreeAt (is : List Nat) (x y : Bytes) : Prop := ∀ i ∈ is, (x.drop i).take 4 = (y.drop i).take 4

instance (is : List Nat) (x y : Bytes) : Decidable (AgreeAt is x y) :=
  inferInstanceAs (Decidable (∀ i ∈ is, (x.drop i).take 4 = (y.drop i).take 4))

theorem agreeAt_nil (x y : Bytes) : AgreeAt [] x y := by
  intro i hi
  cases hi

theorem agreeAt_cons {i : Nat} {is : List Nat} {x y : Bytes} :
    AgreeAt (i :: is) x y ↔ (x.drop i).take 4 = (y.drop i).take 4 ∧ AgreeAt is x y :=
  List.forall_mem_cons

/-- Eight bytes are all seen in two steps. -/
theorem agreeAt_eight {x y : Bytes} (hx : x.length = 8) (hy : y.length = 8) :
    AgreeAt [0, 4] x y ↔ x = y := by
  constructor
  · intro h
    obtain ⟨hfront, h⟩ := agreeAt_cons.mp h
    obtain ⟨hback, -⟩ := agreeAt_cons.mp h
    rw [List.take_of_length_le (by simp [hx]), List.take_of_length_le (by simp [hy])] at hback
    rw [← List.take_append_drop 4 x, ← List.take_append_drop 4 y, hback]
    exact congrArg (· ++ _) hfront
  · rintro rfl i -
    rfl

namespace TripleDesKey

variable {key : TripleDesKey} {a a' b b' : Bytes}

theorem length_nonceParts (i : Nat) (a b : Bytes) :
    (nonceParts a b i).length = min 4 (a.length - i) + min 4 (b.length - i) := by
  rw [nonceParts, List.length_append, List.length_take, List.length_take, List.length_drop,
    List.length_drop]

theorem flatMap_nonceParts_inj {is : List Nat} (ha : a.length = a'.length)
    (hb : b.length = b'.length) : is.flatMap (nonceParts a b) = is.flatMap (nonceParts a' b') ↔
      AgreeAt is a a' ∧ AgreeAt is b b' := by
  induction is with
  | nil => exact iff_of_true rfl ⟨agreeAt_nil a a', agreeAt_nil b b'⟩
  | cons i is ih =>
    rw [List.flatMap_cons, List.flatMap_cons, agreeAt_cons, agreeAt_cons]
    constructor
    · intro h
      obtain ⟨hparts, hrest⟩ := List.append_inj h (by simp only [length_nonceParts, ha, hb])
      obtain ⟨hA, hB⟩ := List.append_inj hparts (by simp [ha])
      obtain ⟨hrestA, hrestB⟩ := ih.mp hrest
      exact ⟨⟨hA, hrestA⟩, hB, hrestB⟩
    · rintro ⟨⟨hA, hrestA⟩, hB, hrestB⟩
      rw [nonceParts, hA, hB, ih.mpr ⟨hrestA, hrestB⟩, nonceParts]

/-- The positions at which a key takes four bytes of both nonces. -/
def positions (key : TripleDesKey) : List Nat :=
  match key with
  | twoKey _ => if key.isSingleDes then [0] else [0, 4]
  | threeKey _ => [0, 6, 12]

/-- The bytes that a key takes of the nonces. -/
def pieces (key : TripleDesKey) (a b : Bytes) : Bytes := key.positions.flatMap (nonceParts a b)

/-- The bytes of the session key; a single DES key is filled with the same bytes again. -/
def sessionBytes (key : TripleDesKey) (a b : Bytes) : Bytes :=
  if key.isSingleDes then key.pieces a b ++ key.pieces a b else key.pieces a b

theorem deriveSession_eq (ha : a.length = key.nonceLength) (hb : b.length = key.nonceLength) :
    key.deriveSession a b = .ok (match key with
      | twoKey _ => twoKey (Octets.fit 16 (key.sessionBytes a b))
      | threeKey _ => threeKey (Octets.fit 24 (key.sessionBytes a b))) := by
  unfold deriveSession
  rw [if_pos ⟨ha, hb⟩]
  cases key with
  | twoKey k =>
    simp only [sessionBytes, pieces, positions]
    split_ifs <;> simp
  | threeKey k =>
    simp [sessionBytes, pieces, positions, isSingleDes]

theorem pieces_inj (ha : a.length = a'.length) (hb : b.length = b'.length) :
    key.pieces a b = key.pieces a' b' ↔ AgreeAt key.positions a a' ∧ AgreeAt key.positions b b' :=
  flatMap_nonceParts_inj ha hb

theorem length_pieces (ha : a.length = key.nonceLength) (hb : b.length = key.nonceLength) :
    (key.pieces a b).length = 8 * key.positions.length := by
  cases key with
  | twoKey k =>
    unfold pieces positions
    split_ifs <;> simp [length_nonceParts, ha, hb, nonceLength]
  | threeKey k => simp [pieces, positions, length_nonceParts, ha, hb, nonceLength]

theorem length_sessionBytes (ha : a.length = key.nonceLength) (hb : b.length = key.nonceLength) :
    (key.sessionBytes a b).length = match key with | twoKey _ => 16 | threeKey _ => 24 := by
  have hpieces := length_pieces ha hb
  unfold sessionBytes
  cases key with
  | twoKey k =>
    split_ifs with hsingle
    · simp [hpieces, positions, hsingle]
    · simp [hpieces, positions, hsingle]
  | threeKey k => exact hpieces

theorem sessionBytes_inj (ha : a.length = key.nonceLength) (hb : b.length = key.nonceLength)
    (ha' : a'.length = key.nonceLength) (hb' : b'.length = key.nonceLength) :
    key.sessionBytes a b = key.sessionBytes a' b' ↔
      AgreeAt key.positions a a' ∧ AgreeAt key.positions b b' := by
  rw [← pieces_inj (ha.trans ha'.symm) (hb.trans hb'.symm)]
  have hlength : (key.pieces a b).length = (key.pieces a' b').length := by
    rw [length_pieces ha hb, length_pieces ha' hb']
  unfold sessionBytes
  split_ifs
  · constructor
    · intro h
      exact (List.append_inj h hlength).1
    · intro h
      rw [h]
  · exact Iff.rfl

theorem deriveSession_inj (ha : a.length = key.nonceLength) (hb : b.length = key.nonceLength)
    (ha' : a'.length = key.nonceLength) (hb' : b'.length = key.nonceLength) :
    key.deriveSession a b = key.deriveSession a' b' ↔
      AgreeAt key.positions a a' ∧ AgreeAt key.positions b b' := by
  rw [deriveSession_eq ha hb, deriveSession_eq ha' hb', Except.ok.injEq,
    ← sessionBytes_inj ha hb ha' hb']
  have hlength := length_sessionBytes ha hb
  have hlength' := length_sessionBytes ha' hb'
  cases key with
  | twoKey k => rw [twoKey.injEq, Octets.fit_inj hlength hlength']
  | threeKey k => rw [threeKey.injEq, Octets.fit_inj hlength hlength']

/-- A key whose halves are equal is a single DES key. -/
theorem isSingleDes_of_append {k : Octets 16} {half : Bytes} (hhalf : half.length = 8)
    (hk : k.toList = half ++ half) : (twoKey k).isSingleDes = true := by
  rw [isSingleDes, hk, List.take_left' hhalf, List.drop_left' hhalf, beq_self_eq_true]

/-- Nonces that fit a key give a session key of its kind, and of a single DES key another. -/
theorem exists_deriveSession (ha : a.length = key.nonceLength) (hb : b.length = key.nonceLength) :
    ∃ s, key.deriveSession a b = .ok s ∧ s.kind = key.kind ∧
      (key.isSingleDes = true → s.isSingleDes = true) := by
  refine ⟨_, deriveSession_eq ha hb, ?_⟩
  have hlength := length_sessionBytes ha hb
  have hpieces := length_pieces ha hb
  cases key with
  | twoKey k =>
    refine ⟨rfl, fun hsingle => ?_⟩
    rw [positions, if_pos hsingle] at hpieces
    refine isSingleDes_of_append hpieces ?_
    rw [Octets.toList_fit (Nat.le_of_eq hlength.symm),
      List.take_of_length_le (Nat.le_of_eq hlength), sessionBytes, if_pos hsingle]
  | threeKey k => exact ⟨rfl, fun hsingle => by cases hsingle⟩

end TripleDesKey

/-- **Fresh nonces.** Whichever party's nonce is new, the vectors of an AES handshake are: with one
nonce fixed, a vector tells the other. The vectors of the two session keys never are the same. After
a triple DES handshake with nonces of the key's length the session key is of the kind of the key and
a single DES key again for one. For a key of two different halves it tells both nonces, for a key of
three parts exactly their bytes 0 to 4, 6 to 10 and 12 to 16. -/
theorem derivation_tells_nonces :
    (∀ label a, Function.Injective (SessionKeys.vector label a)) ∧
    (∀ label b, Function.Injective fun a => SessionKeys.vector label a b) ∧
    (∀ a b a' b', SessionKeys.vector SessionKeys.encLabel a b ≠
      SessionKeys.vector SessionKeys.macLabel a' b') ∧
    ∀ (key : TripleDesKey) (a b : Bytes), a.length = key.nonceLength → b.length = key.nonceLength →
      (∃ s, key.deriveSession a b = .ok s ∧ s.kind = key.kind ∧
        (key.isSingleDes = true → s.isSingleDes = true)) ∧
      ∀ a' b' : Bytes, a'.length = key.nonceLength → b'.length = key.nonceLength →
        (key.kind = .twoKeyTripleDes → key.isSingleDes = false →
          (key.deriveSession a b = key.deriveSession a' b' ↔ a = a' ∧ b = b')) ∧
        (key.kind = .threeKeyTripleDes →
          (key.deriveSession a b = key.deriveSession a' b' ↔
            AgreeAt [0, 6, 12] a a' ∧ AgreeAt [0, 6, 12] b b')) := by
  refine ⟨SessionKeys.vector_right_injective, SessionKeys.vector_left_injective, ?_, ?_⟩
  · intro a b a' b' h
    exact SessionKeys.encLabel_ne_macLabel (SessionKeys.vector_inj.mp h).1
  · intro key a b ha hb
    refine ⟨TripleDesKey.exists_deriveSession ha hb, fun a' b' ha' hb' => ?_⟩
    rw [TripleDesKey.deriveSession_inj ha hb ha' hb']
    cases key with
    | twoKey k =>
      refine ⟨fun _ hsingle => ?_, fun hkind => by cases hkind⟩
      rw [TripleDesKey.positions, if_neg (by rw [hsingle]; exact Bool.false_ne_true),
        agreeAt_eight ha ha', agreeAt_eight hb hb']
    | threeKey k =>
      refine ⟨fun hkind => ?_, fun _ => Iff.rfl⟩
      cases hkind

/-- A byte between the pieces of a key of three parts makes no difference, and any byte makes one
for a key of two halves. -/
theorem derivation_tells_nonces_byte :
    let three : TripleDesKey := .threeKey (Octets.zero 24)
    let two : TripleDesKey := .twoKey (Octets.fit 16 [1])
    three.deriveSession (Bytes.zeros 16) (Bytes.zeros 16) =
        three.deriveSession (Bytes.zeros 16) ([0, 0, 0, 0, 1] ++ Bytes.zeros 11) ∧
      two.deriveSession (Bytes.zeros 8) (Bytes.zeros 8) ≠
        two.deriveSession (Bytes.zeros 8) ([0, 0, 0, 0, 1] ++ Bytes.zeros 3) := by
  intro three two
  obtain ⟨-, -, -, htold⟩ := derivation_tells_nonces
  obtain ⟨-, hthree⟩ := htold three (Bytes.zeros 16) (Bytes.zeros 16) rfl rfl
  obtain ⟨-, htwo⟩ := htold two (Bytes.zeros 8) (Bytes.zeros 8) rfl rfl
  refine ⟨((hthree _ _ rfl rfl).2 rfl).mpr (by decide), fun h => ?_⟩
  obtain ⟨-, hb⟩ := ((htwo _ _ rfl rfl).1 rfl (by decide)).mp h
  revert hb
  decide

end CardLink
