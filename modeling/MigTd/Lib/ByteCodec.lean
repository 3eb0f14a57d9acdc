/- scope: library
   digest: Little-endian words, byte readers and bounded writers, with their round trips. -/

import Mathlib.Data.List.TakeDrop
import Mathlib.Tactic.Ring

set_option autoImplicit false

namespace MigTd

abbrev Octets := List UInt8

end MigTd

namespace MigTd.Lib.ByteCodec

abbrev Bytes (n : Nat) : Type := {bs : Octets // bs.length = n}

def Bytes.zero (n : Nat) : Bytes n := ⟨List.replicate n 0, List.length_replicate⟩

/-- The low `n` bytes of a number, least significant first. -/
def leBytes : Nat → Nat → Octets
  | 0, _ => []
  | n + 1, v => UInt8.ofNat (v % 256) :: leBytes n (v / 256)

/-- The number whose little-endian digits are the given bytes. -/
def leValue : Octets → Nat
  | [] => 0
  | b :: bs => b.toNat + 256 * leValue bs

@[simp] theorem leBytes_length (n v : Nat) : (leBytes n v).length = n := by
  induction n generalizing v with
  | zero => rfl
  | succ n ih => simp [leBytes, ih]

theorem leValue_leBytes (n v : Nat) (h : v < 256 ^ n) : leValue (leBytes n v) = v := by
  induction n generalizing v with
  | zero =>
    have hv : v = 0 := by simpa using h
    simp [leBytes, leValue, hv]
  | succ n ih =>
    have hq : v / 256 < 256 ^ n := by
      rw [Nat.div_lt_iff_lt_mul (by decide)]
      rwa [pow_succ] at h
    have hd : (UInt8.ofNat (v % 256)).toNat = v % 256 := by
      rw [UInt8.toNat_ofNat']
      omega
    rw [leBytes, leValue, ih _ hq, hd]
    omega

theorem leValue_lt (bs : Octets) : leValue bs < 256 ^ bs.length := by
  induction bs with
  | nil => decide
  | cons b bs ih =>
    have hb := b.toNat_lt
    rw [List.length_cons, pow_succ, leValue]
    omega

theorem leBytes_leValue (bs : Octets) : leBytes bs.length (leValue bs) = bs := by
  induction bs with
  | nil => rfl
  | cons b bs ih =>
    have hb := b.toNat_lt
    have hlow : (b.toNat + 256 * leValue bs) % 256 = b.toNat := by omega
    have hhigh : (b.toNat + 256 * leValue bs) / 256 = leValue bs := by omega
    rw [List.length_cons, leValue, leBytes, hlow, hhigh, ih, UInt8.ofNat_toNat]

/-! Readers consume a prefix of the remaining bytes or fail. -/

abbrev Decoder (α : Type) : Type := StateT Octets Option α

def take (n : Nat) : Decoder Octets := fun r =>
  if n ≤ r.length then some (r.take n, r.drop n) else none

def array (n : Nat) : Decoder (Bytes n) := fun r =>
  if h : n ≤ r.length then some (⟨r.take n, by simp [h]⟩, r.drop n) else none

def number (n : Nat) : Decoder Nat := leValue <$> take n

def u8 : Decoder UInt8 := UInt8.ofNat <$> number 1
def u16 : Decoder UInt16 := UInt16.ofNat <$> number 2
def u32 : Decoder UInt32 := UInt32.ofNat <$> number 4
def u64 : Decoder UInt64 := UInt64.ofNat <$> number 8

def putU8 (v : UInt8) : Octets := [v]
def putU16 (v : UInt16) : Octets := leBytes 2 v.toNat
def putU32 (v : UInt32) : Octets := leBytes 4 v.toNat
def putU64 (v : UInt64) : Octets := leBytes 8 v.toNat

def words : (n : Nat) → Decoder (List UInt64)
  | 0 => pure []
  | n + 1 => do
    let w ← u64
    let ws ← words n
    return w :: ws

def putWords (ws : List UInt64) : Octets := ws.flatMap putU64

abbrev Words (n : Nat) : Type := {ws : List UInt64 // ws.length = n}

def wordArray (n : Nat) : Decoder (Words n) := do
  let ws ← words n
  if h : ws.length = n then return ⟨ws, h⟩ else fun _ => none

/-- The first `n` groups of eight bytes, each as a little-endian word. -/
def leWords : Nat → Octets → List UInt64
  | 0, _ => []
  | n + 1, bs => UInt64.ofNat (leValue (bs.take 8)) :: leWords n (bs.drop 8)

@[simp] theorem leWords_length (n : Nat) (bs : Octets) : (leWords n bs).length = n := by
  induction n generalizing bs with
  | zero => rfl
  | succ n ih => simp [leWords, ih]

variable {n m k capacity : Nat} {bs front used : Octets}

theorem putWords_leWords (h : bs.length = 8 * n) : putWords (leWords n bs) = bs := by
  induction n generalizing bs with
  | zero =>
    obtain rfl := List.eq_nil_of_length_eq_zero h
    rfl
  | succ n ih =>
    have htake : (bs.take 8).length = 8 := by
      rw [List.length_take]
      omega
    have hdrop : (bs.drop 8).length = 8 * n := by
      rw [List.length_drop]
      omega
    have hlt : leValue (bs.take 8) < 2 ^ 64 := by
      have hdigits := leValue_lt (bs.take 8)
      rw [htake] at hdigits
      omega
    have hword : putU64 (UInt64.ofNat (leValue (bs.take 8))) = bs.take 8 := by
      have hbytes := leBytes_leValue (bs.take 8)
      rw [htake] at hbytes
      rw [putU64, UInt64.toNat_ofNat', Nat.mod_eq_of_lt hlt, hbytes]
    rw [leWords, putWords, List.flatMap_cons, hword]
    change bs.take 8 ++ putWords (leWords n (bs.drop 8)) = bs
    rw [ih hdrop, List.take_append_drop]

/-- The reader maps this encoding to this value and leaves what follows it. -/
def Decodes {α : Type} (d : Decoder α) (a : α) (bs : Octets) : Prop :=
  ∀ rest, d (bs ++ rest) = some (a, rest)

variable {α β : Type} {d : Decoder α} {f : α → Decoder β}

theorem decoder_bind {y : β × Octets} :
    (d >>= f) bs = some y ↔ ∃ a r, d bs = some (a, r) ∧ f a r = some y := by
  change (d bs).bind (fun p => f p.1 p.2) = some y ↔ _
  rw [Option.bind_eq_some_iff]
  constructor
  · rintro ⟨⟨a, r⟩, hd, hf⟩
    exact ⟨a, r, hd, hf⟩
  · rintro ⟨a, r, hd, hf⟩
    exact ⟨(a, r), hd, hf⟩

theorem decodes_pure (a : α) : Decodes (pure a) a [] := fun _ => rfl

variable {a : α}

theorem Decodes.bind {b : β} {cs : Octets}
    (hd : Decodes d a bs) (hf : Decodes (f a) b cs) : Decodes (d >>= f) b (bs ++ cs) := by
  intro rest
  change (d ((bs ++ cs) ++ rest)).bind (fun p => f p.1 p.2) = _
  rw [List.append_assoc, hd]
  exact hf rest

theorem Decodes.map (f : α → β) (hd : Decodes d a bs) : Decodes (f <$> d) (f a) bs := by
  intro rest
  change (d (bs ++ rest)).bind (fun p => some (f p.1, p.2)) = _
  rw [hd]
  rfl

theorem Decodes.last (f : α → β) (hd : Decodes d a bs) :
    Decodes (d >>= fun x => pure (f x)) (f a) bs := by
  intro rest
  change (d (bs ++ rest)).bind (fun p => some (f p.1, p.2)) = _
  rw [hd]
  rfl

/-- Whenever the reader succeeds, it has taken this many bytes. -/
def Consumes (d : Decoder α) (n : Nat) : Prop :=
  ∀ bs a rest, d bs = some (a, rest) → bs.length = n + rest.length

theorem consumes_pure (a : α) : Consumes (pure a) 0 := by
  intro bs b rest h
  cases h
  simp

theorem Consumes.bind (hd : Consumes d m)
    (hf : ∀ a, Consumes (f a) n) (hk : m + n = k) : Consumes (d >>= f) k := by
  intro bs b rest h
  obtain ⟨a, r, h1, h2⟩ := decoder_bind.mp h
  have hm := hd bs a r h1
  have hn := hf a r b rest h2
  omega

theorem Consumes.map (f : α → β) (hd : Consumes d n) : Consumes (f <$> d) n := by
  intro bs b rest h
  change (d bs).bind (fun p => some (f p.1, p.2)) = _ at h
  obtain ⟨⟨a, r⟩, h1, h2⟩ := Option.bind_eq_some_iff.mp h
  cases h2
  exact hd bs a r h1

theorem consumes_take (n : Nat) : Consumes (take n) n := by
  intro bs a rest h
  unfold take at h
  split_ifs at h with hn
  cases h
  rw [List.length_drop]
  omega

theorem consumes_array (n : Nat) : Consumes (array n) n := by
  intro bs a rest h
  unfold array at h
  split_ifs at h with hn
  cases h
  rw [List.length_drop]
  omega

theorem consumes_u8 : Consumes u8 1 := ((consumes_take 1).map leValue).map UInt8.ofNat

theorem consumes_u16 : Consumes u16 2 := ((consumes_take 2).map leValue).map UInt16.ofNat

theorem consumes_u32 : Consumes u32 4 := ((consumes_take 4).map leValue).map UInt32.ofNat

theorem decodes_take (bs : Octets) : Decodes (take bs.length) bs bs := by
  intro rest
  simp [take]

/-- Whenever the reader succeeds, the first `n` bytes alone decide its value. -/
def DecidedBy (d : Decoder α) (n : Nat) : Prop :=
  ∀ bs a rest, d bs = some (a, rest) →
    ∃ front, front.length = n ∧ bs = front ++ rest ∧ Decodes d a front

theorem decidedBy_fail (n : Nat) : DecidedBy (fun _ => none : Decoder α) n := by
  intro bs a rest h
  cases h

theorem decidedBy_pure (a : α) : DecidedBy (pure a) 0 := by
  intro bs b rest h
  cases h
  exact ⟨[], rfl, rfl, decodes_pure a⟩

theorem DecidedBy.bind (hd : DecidedBy d m)
    (hf : ∀ a, DecidedBy (f a) n) (hk : m + n = k) : DecidedBy (d >>= f) k := by
  intro bs b rest h
  obtain ⟨a, r, h1, h2⟩ := decoder_bind.mp h
  obtain ⟨front, hm, hbs, hda⟩ := hd bs a r h1
  obtain ⟨next, hn, hr, hdb⟩ := hf a r b rest h2
  refine ⟨front ++ next, ?_, ?_, hda.bind hdb⟩
  · rw [List.length_append, hm, hn, hk]
  · rw [hbs, hr, List.append_assoc]

theorem DecidedBy.map (f : α → β) (hd : DecidedBy d n) : DecidedBy (f <$> d) n := by
  intro bs b rest h
  change (d bs).bind (fun p => some (f p.1, p.2)) = _ at h
  obtain ⟨⟨a, r⟩, h1, h2⟩ := Option.bind_eq_some_iff.mp h
  cases h2
  obtain ⟨front, hn, hbs, hda⟩ := hd bs a r h1
  exact ⟨front, hn, hbs, hda.map f⟩

theorem DecidedBy.guarded {c : Prop} [Decidable c]
    (hd : DecidedBy d n) : DecidedBy (if c then fun _ => none else d) n := by
  by_cases hc : c
  · rw [if_pos hc]
    exact decidedBy_fail n
  · rw [if_neg hc]
    exact hd

theorem DecidedBy.read_prefix (hd : DecidedBy d n)
    {rest : Octets} (hk : n ≤ k) (h : d bs = some (a, rest)) :
    d (bs.take k) = some (a, rest.take (k - n)) := by
  obtain ⟨front, hn, hbs, hda⟩ := hd bs a rest h
  have hcut : (front ++ rest).take k = front ++ rest.take (k - n) := by
    rw [List.take_append, hn, List.take_of_length_le (by omega)]
  rw [hbs, hcut]
  exact hda _

theorem DecidedBy.read_all (hd : DecidedBy d n)
    {rest : Octets} (h : d bs = some (a, rest)) (more : Octets) :
    d (bs ++ more) = some (a, rest ++ more) := by
  obtain ⟨front, -, hbs, hda⟩ := hd bs a rest h
  rw [hbs, List.append_assoc]
  exact hda _

theorem decidedBy_take (n : Nat) : DecidedBy (take n) n := by
  intro bs a rest h
  unfold take at h
  split_ifs at h with hn
  cases h
  have hlen : (bs.take n).length = n := by
    rw [List.length_take]
    omega
  refine ⟨bs.take n, hlen, (List.take_append_drop n bs).symm, ?_⟩
  have hread := decodes_take (bs.take n)
  rwa [hlen] at hread

theorem decidedBy_u8 : DecidedBy u8 1 := ((decidedBy_take 1).map leValue).map UInt8.ofNat

theorem decidedBy_u16 : DecidedBy u16 2 := ((decidedBy_take 2).map leValue).map UInt16.ofNat

theorem decidedBy_u32 : DecidedBy u32 4 := ((decidedBy_take 4).map leValue).map UInt32.ofNat

theorem decodes_array (bs : Bytes n) : Decodes (array n) bs bs.1 := by
  intro rest
  have hn : n ≤ (bs.1 ++ rest).length := by simp [bs.2]
  have ht : (bs.1 ++ rest).take n = bs.1 := List.take_left' bs.2
  have hr : (bs.1 ++ rest).drop n = rest := List.drop_left' bs.2
  simp only [array, hn, ↓reduceDIte, ht, hr]

theorem decodes_number (n v : Nat) (h : v < 256 ^ n) : Decodes (number n) v (leBytes n v) := by
  have ht := (decodes_take (leBytes n v)).map leValue
  rwa [leBytes_length, leValue_leBytes n v h] at ht

theorem decodes_u8 (v : UInt8) : Decodes u8 v (putU8 v) := by
  have hv := (decodes_number 1 v.toNat v.toNat_lt).map UInt8.ofNat
  have he : leBytes 1 v.toNat = putU8 v := by
    rw [leBytes, leBytes, Nat.mod_eq_of_lt v.toNat_lt, UInt8.ofNat_toNat]
    rfl
  rwa [UInt8.ofNat_toNat, he] at hv

theorem decodes_u16 (v : UInt16) : Decodes u16 v (putU16 v) := by
  have hv := (decodes_number 2 v.toNat v.toNat_lt).map UInt16.ofNat
  rwa [UInt16.ofNat_toNat] at hv

theorem decodes_u32 (v : UInt32) : Decodes u32 v (putU32 v) := by
  have hv := (decodes_number 4 v.toNat v.toNat_lt).map UInt32.ofNat
  rwa [UInt32.ofNat_toNat] at hv

theorem decodes_u64 (v : UInt64) : Decodes u64 v (putU64 v) := by
  have hv := (decodes_number 8 v.toNat v.toNat_lt).map UInt64.ofNat
  rwa [UInt64.ofNat_toNat] at hv

private theorem decodes_words (ws : List UInt64) : Decodes (words ws.length) ws (putWords ws) := by
  induction ws with
  | nil => exact decodes_pure []
  | cons w ws ih =>
    refine Decodes.bind (decodes_u64 w) ?_
    exact ih.last (w :: ·)

theorem decodes_wordArray (ws : Words n) : Decodes (wordArray n) ws (putWords ws.1) := by
  obtain ⟨ws, rfl⟩ := ws
  let finish : List UInt64 → Decoder (Words ws.length) := fun vs =>
    if h : vs.length = ws.length then pure ⟨vs, h⟩ else fun _ => none
  have hf : Decodes (finish ws) ⟨ws, rfl⟩ [] := by
    simp only [finish, ↓reduceDIte]
    exact decodes_pure _
  have h := (decodes_words ws).bind hf
  rwa [List.append_nil] at h

/-- Behind the bytes `front`, every string of `n` bytes completes an encoding, and the reader
returns the value that it encodes. -/
def Completes (d : Decoder α) (n : Nat) (front : Octets) (put : α → Octets) : Prop :=
  ∀ bs, bs.length = n → ∃ a, put a = front ++ bs ∧ Decodes d a bs

variable {put : α → Octets}

theorem completes_pure (h : put a = front) : Completes (pure a) 0 front put := by
  intro bs hbs
  obtain rfl := List.eq_nil_of_length_eq_zero hbs
  exact ⟨a, by rw [h, List.append_nil], decodes_pure a⟩

theorem Completes.bind {field : α → Octets} {put : β → Octets} (hd : Completes d m [] field)
    (hf : ∀ a, Completes (f a) n (front ++ field a) put) (hk : m + n = k) :
    Completes (d >>= f) k front put := by
  intro bs hbs
  have hfirst : (bs.take m).length = m := by
    rw [List.length_take]
    omega
  have hrest : (bs.drop m).length = n := by
    rw [List.length_drop]
    omega
  obtain ⟨a, ha, hda⟩ := hd _ hfirst
  obtain ⟨b, hb, hdb⟩ := hf a _ hrest
  rw [List.nil_append] at ha
  refine ⟨b, ?_, ?_⟩
  · rw [hb, ha, List.append_assoc, List.take_append_drop]
  · have hboth := hda.bind hdb
    rwa [List.take_append_drop] at hboth

theorem Completes.branch {e : Decoder α} {c : Bool} (hd : c = true → Completes d n front put)
    (he : c = false → Completes e n front put) : Completes (if c then d else e) n front put := by
  cases c
  · exact he rfl
  · exact hd rfl

theorem leValue_lt_of_length (h : bs.length = n) : leValue bs < 256 ^ n := h ▸ leValue_lt bs

theorem leBytes_leValue_of_length (h : bs.length = n) :
    leBytes n (leValue bs) = bs := h ▸ leBytes_leValue bs

theorem completes_word (ofNat : Nat → α) (hput : ∀ v, v < 256 ^ n → put (ofNat v) = leBytes n v)
    (hd : ∀ a, Decodes d a (put a)) : Completes d n [] put := by
  intro bs hbs
  have hword : put (ofNat (leValue bs)) = bs := by
    rw [hput _ (leValue_lt_of_length hbs), leBytes_leValue_of_length hbs]
  refine ⟨ofNat (leValue bs), hword, ?_⟩
  have hread := hd (ofNat (leValue bs))
  rwa [hword] at hread

theorem completes_u8 : Completes u8 1 [] putU8 := by
  refine completes_word UInt8.ofNat ?_ decodes_u8
  intro v hv
  have hlt : v < 256 := by omega
  rw [leBytes, leBytes, Nat.mod_eq_of_lt hlt]
  rfl

theorem completes_u64 : Completes u64 8 [] putU64 := by
  refine completes_word UInt64.ofNat ?_ decodes_u64
  intro v hv
  have hlt : v < 2 ^ 64 := by omega
  rw [putU64, UInt64.toNat_ofNat', Nat.mod_eq_of_lt hlt]

theorem completes_array (n : Nat) : Completes (array n) n [] Subtype.val :=
  fun bs hbs => ⟨⟨bs, hbs⟩, rfl, decodes_array ⟨bs, hbs⟩⟩

theorem completes_wordArray (n : Nat) :
    Completes (wordArray n) (8 * n) [] fun ws => putWords ws.1 := by
  intro bs hbs
  have hwords := putWords_leWords hbs
  refine ⟨⟨leWords n bs, leWords_length n bs⟩, hwords, ?_⟩
  have hread := decodes_wordArray ⟨leWords n bs, leWords_length n bs⟩
  rwa [hwords] at hread

/-! Writers append to a buffer of bounded capacity. -/

/-- Append fields in order. A field that does not fit stops the writer, which keeps what it
wrote before. -/
def write (capacity : Nat) : Octets → List Octets → Except Octets Octets
  | used, [] => .ok used
  | used, field :: rest =>
    if used.length + field.length ≤ capacity then write capacity (used ++ field) rest
    else .error used

variable {fields first rest : List Octets} {out : Octets}

theorem write_iff (hne : fields ≠ []) :
    write capacity used fields = .ok out ↔ out = used ++ fields.flatten ∧ out.length ≤ capacity := by
  induction fields generalizing used with
  | nil => exact absurd rfl hne
  | cons f fs ih =>
    rw [write, List.flatten_cons, ← List.append_assoc]
    split
    · rename_i hfits
      cases fs with
      | nil =>
        rw [← List.length_append] at hfits
        simp only [write, Except.ok.injEq, List.flatten_nil, List.append_nil]
        exact ⟨fun h => ⟨h.symm, h ▸ hfits⟩, fun h => h.1.symm⟩
      | cons g gs => exact ih (List.cons_ne_nil g gs)
    · rename_i hfull
      refine ⟨nofun, ?_⟩
      rintro ⟨rfl, hlen⟩
      rw [List.length_append, List.length_append] at hlen
      exact absurd ((Nat.le_add_right _ _).trans hlen) hfull

theorem write_ok (h : write capacity used fields = .ok out) : out = used ++ fields.flatten := by
  cases fields with
  | nil =>
    cases h
    simp
  | cons f fs => exact ((write_iff (List.cons_ne_nil f fs)).mp h).1

/-- A writer over memory that already holds bytes replaces them from the start. -/
def overwrite (buffer : Octets) (fields : List Octets) : Bool × Octets :=
  match write buffer.length [] fields with
  | .ok out => (true, out ++ buffer.drop out.length)
  | .error out => (false, out ++ buffer.drop out.length)

theorem write_extends (capacity : Nat) (used : Octets) (fields : List Octets) :
    ∃ out, (write capacity used fields = .ok out ∨ write capacity used fields = .error out) ∧
      used <+: out := by
  induction fields generalizing used with
  | nil => exact ⟨used, .inl rfl, List.prefix_refl used⟩
  | cons f fs ih =>
    unfold write
    split
    · obtain ⟨out, h, hp⟩ := ih (used ++ f)
      exact ⟨out, h, (List.prefix_append used f).trans hp⟩
    · exact ⟨used, .inr rfl, List.prefix_refl used⟩

theorem write_append (h : used.length + first.flatten.length ≤ capacity) :
    write capacity used (first ++ rest) = write capacity (used ++ first.flatten) rest := by
  induction first generalizing used with
  | nil => simp
  | cons f fs ih =>
    rw [List.flatten_cons, List.length_append] at h
    have hf : used.length + f.length ≤ capacity := by omega
    have hfs : (used ++ f).length + fs.flatten.length ≤ capacity := by
      rw [List.length_append]
      omega
    rw [List.cons_append, write, if_pos hf, ih hfs, List.flatten_cons, List.append_assoc]

theorem write_of_fits (h : used.length + fields.flatten.length ≤ capacity) :
    write capacity used fields = .ok (used ++ fields.flatten) := by
  have hall : write capacity used (fields ++ []) = .ok (used ++ fields.flatten) := write_append h
  rwa [List.append_nil] at hall

theorem overwrite_leads {buffer : Octets} (h : first.flatten.length ≤ buffer.length) :
    first.flatten <+: (overwrite buffer (first ++ rest)).2 := by
  have ha : write buffer.length [] (first ++ rest) = write buffer.length first.flatten rest := by
    rw [write_append (by simpa using h), List.nil_append]
  unfold overwrite
  rw [ha]
  obtain ⟨out, ho | ho, hp⟩ := write_extends buffer.length first.flatten rest
  · rw [ho]
    exact hp.trans (List.prefix_append _ _)
  · rw [ho]
    exact hp.trans (List.prefix_append _ _)

end MigTd.Lib.ByteCodec
