import MarketFeed.Proofs.Record.Scan
import MarketFeed.Record.Frame

set_option autoImplicit false

/-!
# Frames

`IsFrame` says of a byte string that it is as long as its first byte declares. `Record.decode_cases`
is all that a decoder does with a buffer: it cuts a frame off the front, or says why there is none.
`Visited` is the grammar of a visit of a buffer: frames one after the other, up to one that the
visitor declines to go beyond or up to bytes that begin with no frame (`Refused`).
`Record.split_visited` says that a visit keeps to it, and `stream_parses_frames` reads off it what
is visited and what is answered, in both directions.
-/

namespace MarketFeed

/-- A byte string that is four times as long as its first byte says, and holds a header. -/
def IsFrame (bs : Bytes) : Prop := bs.length = 4 * (bs.headD 0).toNat ∧ Header.width ≤ bs.length

instance (bs : Bytes) : Decidable (IsFrame bs) := inferInstanceAs (Decidable (_ ∧ _))

/-- Bytes that would hold a header but begin with no frame, and what is wrong with them. -/
inductive Refused : Bytes → DecodeError → Prop
  | invalid {b : UInt8} {tail : Bytes} : Header.width ≤ (b :: tail).length → b.toNat < 4 →
      Refused (b :: tail) (.invalidLength b)
  | truncated {b : UInt8} {tail : Bytes} : Header.width ≤ (b :: tail).length → 4 ≤ b.toNat →
      (b :: tail).length < 4 * b.toNat →
      Refused (b :: tail) (.truncatedRecord (4 * b.toNat) (b :: tail).length)

theorem Refused.width_le {bs : Bytes} {e : DecodeError} (h : Refused bs e) :
    Header.width ≤ bs.length := by
  cases h <;> assumption

theorem refused_invalid_iff {bs : Bytes} {b : UInt8} : Refused bs (.invalidLength b) ↔
    Header.width ≤ bs.length ∧ bs.head? = some b ∧ b.toNat < 4 := by
  constructor
  · rintro (⟨hw, hb⟩ | _)
    exact ⟨hw, rfl, hb⟩
  · rintro ⟨hw, hh, hb⟩
    obtain ⟨tail, rfl⟩ := List.head?_eq_some_iff.mp hh
    exact .invalid hw hb

theorem refused_truncated_iff {bs : Bytes} {declared actual : Nat} :
    Refused bs (.truncatedRecord declared actual) ↔
      Header.width ≤ bs.length ∧ ∃ b, bs.head? = some b ∧ 4 ≤ b.toNat ∧ declared = 4 * b.toNat ∧
        actual = bs.length ∧ actual < declared := by
  constructor
  · rintro (_ | ⟨hw, hb, hlt⟩)
    exact ⟨hw, _, rfl, hb, rfl, rfl, hlt⟩
  · rintro ⟨hw, b, hh, hb, rfl, rfl, hlt⟩
    obtain ⟨tail, rfl⟩ := List.head?_eq_some_iff.mp hh
    exact .truncated hw hb hlt

theorem Refused.unique {bs : Bytes} {e e' : DecodeError} (h : Refused bs e) (h' : Refused bs e') :
    e = e' := by
  cases h with
  | invalid _ hb =>
    cases h' with
    | invalid => rfl
    | truncated _ hb' => omega
  | truncated _ hb =>
    cases h' with
    | invalid _ hb' => omega
    | truncated => rfl

/-! ## Headers -/

namespace Header

theorem takes_scan : Scan.Takes scan width :=
  Scan.takes_u8.bind fun _ => Scan.takes_u8.bind fun _ => Scan.takes_u16.bind fun _ =>
    Scan.takes_u32.bind fun _ => Scan.takes_u64.map _

theorem length_of_scan {b : UInt8} {bs rest : Bytes} {hd : Header}
    (h : scan.run (b :: bs) = some (hd, rest)) : hd.length = b := by
  simp only [scan, StateT.run_bind, Option.bind_eq_bind, Option.bind_eq_some_iff] at h
  obtain ⟨_, hb, _, -, _, -, _, -, _, -, hpure⟩ := h
  cases hb
  cases hpure
  rfl

theorem read?_short {bs : Bytes} (h : bs.length < width) : read? bs = none := by
  rw [read?, takes_scan.short bs h]
  rfl

/-- Where there are 16 bytes there is a header, whose length is the first byte. -/
theorem read?_cons {b : UInt8} {bs : Bytes} (h : width ≤ (b :: bs).length) :
    ∃ hd, read? (b :: bs) = some hd ∧ hd.length = b := by
  obtain ⟨hd, -, hrun⟩ := takes_scan.run h
  refine ⟨hd, ?_, length_of_scan hrun⟩
  rw [read?, hrun]
  rfl

/-- Bytes after the header do not matter to it. -/
theorem read?_append {bs : Bytes} (h : width ≤ bs.length) (rest : Bytes) :
    read? (bs ++ rest) = read? bs := by
  obtain ⟨hd, hr, -⟩ := takes_scan.run h
  have h₁ := hr (bs.drop width)
  have h₂ := hr (bs.drop width ++ rest)
  rw [← List.append_assoc, List.take_append_drop] at h₂
  rw [List.take_append_drop] at h₁
  rw [read?, read?, h₁, h₂]
  rfl

end Header

/-! ## One record -/

namespace Record

theorem decode_short {bs : Bytes} (h : bs.length < Header.width) :
    decode bs = .error (.bufferTooSmall Header.width bs.length) := by
  rw [decode, Header.read?_short h]

/-- A frame is cut off the front of a buffer. -/
theorem decode_frame {f : Bytes} (hf : IsFrame f) (rest : Bytes) :
    ∃ hd, Header.read? f = some hd ∧ decode (f ++ rest) = .ok ⟨hd, f⟩ := by
  obtain ⟨hlen, hw⟩ := hf
  cases f with
  | nil => cases hw
  | cons b tail =>
    obtain ⟨hd, hread, hb⟩ := Header.read?_cons hw
    have hsize : hd.recordSize = (b :: tail).length := by
      rw [Header.recordSize, hb]
      exact hlen.symm
    have h₁ : ¬ (b :: tail).length < Header.width := Nat.not_lt_of_le hw
    have h₂ : ¬ (b :: tail ++ rest).length < (b :: tail).length := by
      rw [List.length_append]
      omega
    refine ⟨hd, hread, ?_⟩
    rw [decode, Header.read?_append hw, hread]
    simp only [hsize, if_neg h₁, if_neg h₂, List.take_left]

/-- A buffer is too short for a header, or begins with no frame, or begins with one. -/
theorem decode_cases (bs : Bytes) :
    (bs.length < Header.width ∧ decode bs = .error (.bufferTooSmall Header.width bs.length)) ∨
      (∃ e, Refused bs e ∧ decode bs = .error e) ∨
      ∃ f rest hd, bs = f ++ rest ∧ IsFrame f ∧ Header.read? f = some hd ∧
        decode bs = .ok ⟨hd, f⟩ := by
  by_cases hw : bs.length < Header.width
  · exact .inl ⟨hw, decode_short hw⟩
  · have hw : Header.width ≤ bs.length := Nat.le_of_not_lt hw
    refine .inr ?_
    cases bs with
    | nil => cases hw
    | cons b tail =>
      obtain ⟨hd, hread, hb⟩ := Header.read?_cons hw
      have hsize : hd.recordSize = 4 * b.toNat := by rw [Header.recordSize, hb]
      by_cases h₁ : b.toNat < 4
      · have hlt : hd.recordSize < Header.width := by
          rw [hsize, Header.width]
          omega
        refine .inl ⟨_, .invalid hw h₁, ?_⟩
        simp only [decode, hread, if_pos hlt, hb]
      · have hge : ¬ 4 * b.toNat < Header.width := by
          rw [Header.width]
          omega
        by_cases h₂ : (b :: tail).length < 4 * b.toNat
        · refine .inl ⟨_, .truncated hw (Nat.le_of_not_lt h₁) h₂, ?_⟩
          simp only [decode, hread, hsize, if_neg hge, if_pos h₂]
        · have hle : 4 * b.toNat ≤ (b :: tail).length := Nat.le_of_not_lt h₂
          let f := (b :: tail).take (4 * b.toNat)
          have hlen : f.length = 4 * b.toNat := List.length_take_of_le hle
          have hhead : f.headD 0 = b := by
            obtain ⟨n, hn⟩ : ∃ n, 4 * b.toNat = n + 1 := ⟨4 * b.toNat - 1, by omega⟩
            simp only [f, hn, List.take_succ_cons, List.headD_cons]
          have hf : IsFrame f := by
            refine ⟨by rw [hlen, hhead], ?_⟩
            rw [hlen, Header.width]
            omega
          obtain ⟨hd', hread', hdec⟩ := decode_frame hf ((b :: tail).drop (4 * b.toNat))
          rw [List.take_append_drop] at hdec
          exact .inr ⟨f, _, hd', (List.take_append_drop _ _).symm, hf, hread', hdec⟩

/-- What is decoded is a frame from the front, with the header read off it. -/
theorem decode_ok {bs : Bytes} {r : Record} (h : decode bs = .ok r) :
    IsFrame r.bytes ∧ Header.read? r.bytes = some r.header ∧
      bs = r.bytes ++ bs.drop r.size := by
  rcases decode_cases bs with ⟨-, hd⟩ | ⟨e, -, hd⟩ | ⟨f, rest, hd, rfl, hf, hread, hdec⟩
  · rw [hd] at h
    cases h
  · rw [hd] at h
    cases h
  · rw [hdec] at h
    cases h
    exact ⟨hf, hread, by rw [size, List.drop_left]⟩

theorem decode_error {bs : Bytes} {e : DecodeError} (h : decode bs = .error e) :
    (bs.length < Header.width ∧ e = .bufferTooSmall Header.width bs.length) ∨ Refused bs e := by
  rcases decode_cases bs with ⟨hw, hd⟩ | ⟨e', he, hd⟩ | ⟨f, rest, hd, -, -, -, hdec⟩
  · rw [hd] at h
    cases h
    exact .inl ⟨hw, rfl⟩
  · rw [hd] at h
    cases h
    exact .inr he
  · rw [hdec] at h
    cases h

end Record

/-! ## A visit -/

/-- The visit of a buffer, `n` records having been seen before: the records that are seen, the bytes
after them, and the error that ends the visit. -/
inductive Visited (visit : Nat → Record → Bool) :
    Nat → Bytes → List Record → Bytes → Option DecodeError → Prop
  | short {n : Nat} {bs : Bytes} : bs.length < Header.width → Visited visit n bs [] bs none
  | refused {n : Nat} {bs : Bytes} {e : DecodeError} : Refused bs e →
      Visited visit n bs [] bs (some e)
  | last {n : Nat} {r : Record} {left : Bytes} : IsFrame r.bytes →
      Header.read? r.bytes = some r.header → visit n r = false →
      Visited visit n (r.bytes ++ left) [r] left none
  | next {n : Nat} {r : Record} {rest left : Bytes} {seen : List Record}
      {e : Option DecodeError} : IsFrame r.bytes → Header.read? r.bytes = some r.header →
      visit n r = true → Visited visit (n + 1) rest seen left e →
      Visited visit n (r.bytes ++ rest) (r :: seen) left e

/-- The last of the records that were seen, `n` others before them, was one too many. -/
def Declined (visit : Nat → Record → Bool) (n : Nat) (seen : List Record) : Prop :=
  ∃ earlier r, seen = earlier ++ [r] ∧ visit (n + earlier.length) r = false

theorem not_declined_nil {visit : Nat → Record → Bool} {n : Nat} : ¬ Declined visit n [] := by
  rintro ⟨earlier, r, h, -⟩
  exact List.append_ne_nil_of_right_ne_nil earlier (List.cons_ne_nil r []) h.symm

/-- A record that the visitor goes on from does not matter. -/
theorem declined_cons {visit : Nat → Record → Bool} {n : Nat} {r : Record} {seen : List Record}
    (hv : visit n r = true) : Declined visit n (r :: seen) ↔ Declined visit (n + 1) seen := by
  constructor
  · rintro ⟨earlier, last, hs, hd⟩
    cases earlier with
    | nil =>
      cases hs
      rw [List.length_nil, Nat.add_zero, hv] at hd
      cases hd
    | cons r' earlier =>
      injection hs with _ hs
      refine ⟨earlier, last, hs, ?_⟩
      rwa [List.length_cons, Nat.add_comm earlier.length, ← Nat.add_assoc] at hd
  · rintro ⟨earlier, last, rfl, hd⟩
    refine ⟨r :: earlier, last, rfl, ?_⟩
    rwa [List.length_cons, Nat.add_comm earlier.length, ← Nat.add_assoc]

/-- Every visit keeps to the grammar. -/
theorem Record.split_visited (visit : Nat → Record → Bool) (n : Nat) (buffer : Bytes) :
    ∃ left, Visited visit n buffer (split visit n buffer).records left
      (split visit n buffer).error := by
  fun_induction split visit n buffer with
  | case1 n buffer need available hd =>
    rcases decode_error hd with ⟨hw, -⟩ | hr
    · exact ⟨buffer, .short hw⟩
    · cases hr
  | case2 n buffer e hne hd =>
    rcases decode_error hd with ⟨-, rfl⟩ | hr
    · exact absurd rfl (hne _ _)
    · exact ⟨buffer, .refused hr⟩
  | case3 n buffer r hd hv rest ih =>
    obtain ⟨left, ih⟩ := ih
    obtain ⟨hf, hread, hb⟩ := decode_ok hd
    have hn := Visited.next hf hread hv ih
    rw [← hb] at hn
    exact ⟨left, hn⟩
  | case4 n buffer r hd hv =>
    obtain ⟨hf, hread, hb⟩ := decode_ok hd
    have hl : Visited visit n (r.bytes ++ buffer.drop r.size) [r] (buffer.drop r.size) none :=
      .last hf hread (by simpa using hv)
    rw [← hb] at hl
    exact ⟨buffer.drop r.size, hl⟩

namespace Visited

variable {visit : Nat → Record → Bool} {n : Nat} {buffer left : Bytes} {seen : List Record}
  {e : Option DecodeError}

theorem bytes (h : Visited visit n buffer seen left e) :
    seen.flatMap (·.bytes) ++ left = buffer := by
  induction h with
  | short => rfl
  | refused => rfl
  | last => simp
  | next _ _ _ _ ih => rw [List.flatMap_cons, List.append_assoc, ih]

theorem frames (h : Visited visit n buffer seen left e) :
    ∀ r ∈ seen, IsFrame r.bytes ∧ Header.read? r.bytes = some r.header := by
  induction h with
  | short => exact fun _ hr => absurd hr List.not_mem_nil
  | refused => exact fun _ hr => absurd hr List.not_mem_nil
  | last hf hread => exact List.forall_mem_singleton.mpr ⟨hf, hread⟩
  | next hf hread _ _ ih => exact List.forall_mem_cons.mpr ⟨⟨hf, hread⟩, ih⟩

/-- The visitor is asked after every record, and goes on unless it is the last one. -/
theorem goes_on (h : Visited visit n buffer seen left e) {earlier later : List Record}
    {r : Record} (hs : seen = earlier ++ r :: later) (hl : later ≠ []) :
    visit (n + earlier.length) r = true := by
  induction h generalizing earlier with
  | short => simp at hs
  | refused => simp at hs
  | last =>
    cases earlier with
    | nil =>
      injection hs with _ hs
      exact absurd hs.symm hl
    | cons => simp at hs
  | next _ _ hv _ ih =>
    cases earlier with
    | nil =>
      injection hs with hr
      rw [← hr]
      exact hv
    | cons r' earlier =>
      injection hs with _ hs
      have := ih hs
      rwa [List.length_cons, Nat.add_comm earlier.length, ← Nat.add_assoc]

/-- A visit ends with the record that the visitor declined to go beyond, or before bytes that begin
with no frame. -/
theorem ending (h : Visited visit n buffer seen left e) :
    (Declined visit n seen ∧ e = none) ∨
      (¬ Declined visit n seen ∧
        ((left.length < Header.width ∧ e = none) ∨ ∃ x, Refused left x ∧ e = some x)) := by
  induction h with
  | short hw => exact .inr ⟨not_declined_nil, .inl ⟨hw, rfl⟩⟩
  | refused hr => exact .inr ⟨not_declined_nil, .inr ⟨_, hr, rfl⟩⟩
  | last _ _ hv => exact .inl ⟨⟨[], _, rfl, hv⟩, rfl⟩
  | next _ _ hv _ ih => rwa [declined_cons hv]

theorem none_iff (h : Visited visit n buffer seen left e) :
    e = none ↔ Declined visit n seen ∨ left.length < Header.width := by
  rcases h.ending with ⟨hd, he⟩ | ⟨hd, ⟨hw, he⟩ | ⟨x, hx, he⟩⟩
  · exact iff_of_true he (.inl hd)
  · exact iff_of_true he (.inr hw)
  · refine iff_of_false (by simp [he]) ?_
    rintro (h | h)
    · exact hd h
    · exact Nat.not_lt_of_le hx.width_le h

theorem some_iff (h : Visited visit n buffer seen left e) (x : DecodeError) :
    e = some x ↔ ¬ Declined visit n seen ∧ Refused left x := by
  rcases h.ending with ⟨hd, he⟩ | ⟨hd, ⟨hw, he⟩ | ⟨y, hy, he⟩⟩
  · exact iff_of_false (by simp [he]) fun h => h.1 hd
  · exact iff_of_false (by simp [he]) fun h => Nat.not_lt_of_le h.2.width_le hw
  · rw [he, Option.some.injEq]
    constructor
    · rintro rfl
      exact ⟨hd, hy⟩
    · exact fun h => hy.unique h.2

/-- A visit ends without an error, or with one of these two. -/
theorem error_cases (h : Visited visit n buffer seen left e) :
    e = none ∨ (∃ b, e = some (.invalidLength b)) ∨
      ∃ declared actual, e = some (.truncatedRecord declared actual) := by
  rcases h.ending with ⟨-, he⟩ | ⟨-, ⟨-, he⟩ | ⟨x, hx, he⟩⟩
  · exact .inl he
  · exact .inl he
  · cases hx with
    | invalid => exact .inr (.inl ⟨_, he⟩)
    | truncated => exact .inr (.inr ⟨_, _, he⟩)

/-- Every record takes up at least a header of the buffer. -/
theorem length_le (h : Visited visit n buffer seen left e) :
    Header.width * seen.length ≤ buffer.length := by
  induction h with
  | short => exact Nat.zero_le _
  | refused => exact Nat.zero_le _
  | last hf =>
    have := hf.2
    simp only [List.length_singleton, List.length_append]
    omega
  | next hf _ _ _ ih =>
    have := hf.2
    simp only [List.length_cons, List.length_append, Nat.mul_add]
    omega

end Visited

namespace Record

theorem split_short (visit : Nat → Record → Bool) (n : Nat) {bs : Bytes}
    (h : bs.length < Header.width) : split visit n bs = ⟨[], none⟩ := by
  have hd := decode_short h
  rw [split]
  split
  · rfl
  · rename_i hne he
    rw [he, Except.error.injEq] at hd
    exact absurd hd (hne _ _)
  · rename_i hok
    rw [hok] at hd
    cases hd

/-- A visit goes on after a frame if the visitor does. -/
theorem split_frame (visit : Nat → Record → Bool) (n : Nat) (r : Record) {rest : Bytes}
    (hd : decode (r.bytes ++ rest) = .ok r) (hv : visit n r = true) :
    split visit n (r.bytes ++ rest) =
      ⟨r :: (split visit (n + 1) rest).records, (split visit (n + 1) rest).error⟩ := by
  rw [split]
  split
  · rename_i he
    rw [hd] at he
    cases he
  · rename_i he
    rw [hd] at he
    cases he
  · rename_i r' hok
    rw [hd] at hok
    cases hok
    rw [if_pos hv, size, List.drop_left]

/-- A visit of frames that never declines sees them all. -/
theorem split_frames {frames : List Bytes} (hf : ∀ f ∈ frames, IsFrame f) {tail : Bytes}
    (ht : tail.length < Header.width) (n : Nat) :
    ∃ seen, split (fun _ _ => true) n (frames.flatten ++ tail) = ⟨seen, none⟩ ∧
      seen.map (·.bytes) = frames := by
  induction frames generalizing n with
  | nil => exact ⟨[], split_short _ n ht, rfl⟩
  | cons f frames ih =>
    obtain ⟨hf, hfs⟩ := List.forall_mem_cons.mp hf
    obtain ⟨hd, -, hdec⟩ := decode_frame hf (frames.flatten ++ tail)
    obtain ⟨seen, hseen, hmap⟩ := ih hfs (n + 1)
    refine ⟨⟨hd, f⟩ :: seen, ?_, ?_⟩
    · rw [List.flatten_cons, List.append_assoc,
        split_frame (fun _ _ => true) n ⟨hd, f⟩ hdec rfl, hseen]
    · rw [List.map_cons, hmap]

end Record

/-! ## The stream of a buffer -/

namespace Record

variable {visit : Nat → Record → Bool} {buffer : Bytes}

theorem stream_seen : (stream visit buffer).2 = (split visit 0 buffer).records := by
  simp only [stream]
  split <;> rfl

theorem stream_ok_iff {n : Nat} : (stream visit buffer).1 = .ok n ↔
    n = (stream visit buffer).2.length ∧ (split visit 0 buffer).error = none := by
  rw [stream_seen]
  simp only [stream]
  cases (split visit 0 buffer).error <;> simp [eq_comm]

theorem stream_error_iff {e : DecodeError} :
    (stream visit buffer).1 = .error e ↔ (split visit 0 buffer).error = some e := by
  simp only [stream]
  cases (split visit 0 buffer).error <;> simp

/-- A stream that is never declined sees the frames a buffer was laid out from. -/
theorem stream_frames {frames : List Bytes} {tail : Bytes} (hf : ∀ f ∈ frames, IsFrame f)
    (ht : tail.length < Header.width) :
    (stream (fun _ _ => true) (frames.flatten ++ tail)).1 = .ok frames.length ∧
    (stream (fun _ _ => true) (frames.flatten ++ tail)).2.map (·.bytes) = frames := by
  obtain ⟨visited, hs, rfl⟩ := split_frames hf ht 0
  rw [stream_ok_iff, stream_seen, hs, List.length_map]
  exact ⟨⟨rfl, rfl⟩, rfl⟩

/-- A buffer is frames and a short tail in one way only. -/
theorem frames_unique {frames frames' : List Bytes} {tail tail' : Bytes}
    (hf : ∀ f ∈ frames, IsFrame f) (ht : tail.length < Header.width)
    (hf' : ∀ f ∈ frames', IsFrame f) (ht' : tail'.length < Header.width)
    (heq : frames.flatten ++ tail = frames'.flatten ++ tail') :
    frames = frames' ∧ tail = tail' := by
  have hfr : frames = frames' := by
    rw [← (stream_frames hf ht).2, heq, (stream_frames hf' ht').2]
  rw [hfr] at heq
  exact ⟨hfr, List.append_cancel_left heq⟩

end Record

/-- A visit of a buffer, whatever the buffer and wherever the visitor declines to go on:

* What is seen are frames from the front of the buffer, in order, with the headers read off them,
  and there are no more of them than headers fit in.
* The count of the calls is answered just if the last call declined or what is left is too short for
  a header; an error just if no call declined and what is left begins with no frame, and the error
  says why. There is no other answer.
* Frames laid end to end before a short tail are all seen, so a buffer is frames and a short tail in
  one way only. -/
theorem stream_parses_frames (visit : Nat → Record → Bool) (buffer : Bytes) :
    let answer := (Record.stream visit buffer).1
    let seen := (Record.stream visit buffer).2
    (∃ left, seen.flatMap (·.bytes) ++ left = buffer ∧
      (∀ r ∈ seen, IsFrame r.bytes ∧ Header.read? r.bytes = some r.header) ∧
      (∀ earlier r later, seen = earlier ++ r :: later → later ≠ [] →
        visit earlier.length r = true) ∧
      (∀ n, answer = .ok n ↔
        n = seen.length ∧ (Declined visit 0 seen ∨ left.length < Header.width)) ∧
      (∀ b, answer = .error (.invalidLength b) ↔
        ¬ Declined visit 0 seen ∧ Header.width ≤ left.length ∧ left.head? = some b ∧
          b.toNat < 4) ∧
      (∀ declared actual, answer = .error (.truncatedRecord declared actual) ↔
        ¬ Declined visit 0 seen ∧ Header.width ≤ left.length ∧
          ∃ b, left.head? = some b ∧ 4 ≤ b.toNat ∧ declared = 4 * b.toNat ∧
            actual = left.length ∧ actual < declared) ∧
      ((∃ n, answer = .ok n) ∨ (∃ b, answer = .error (.invalidLength b)) ∨
        ∃ declared actual, answer = .error (.truncatedRecord declared actual))) ∧
    Header.width * seen.length ≤ buffer.length ∧
    (∀ (frames : List Bytes) (tail : Bytes),
      (∀ f ∈ frames, IsFrame f) → tail.length < Header.width →
      (Record.stream (fun _ _ => true) (frames.flatten ++ tail)).1 = .ok frames.length ∧
      (Record.stream (fun _ _ => true) (frames.flatten ++ tail)).2.map (·.bytes) = frames) ∧
    ∀ (frames frames' : List Bytes) (tail tail' : Bytes),
      (∀ f ∈ frames, IsFrame f) → tail.length < Header.width →
      (∀ f ∈ frames', IsFrame f) → tail'.length < Header.width →
      frames.flatten ++ tail = frames'.flatten ++ tail' → frames = frames' ∧ tail = tail' := by
  intro answer seen
  obtain ⟨left, hv⟩ := Record.split_visited visit 0 buffer
  rw [← Record.stream_seen] at hv
  refine ⟨⟨left, hv.bytes, hv.frames, fun earlier r later hs hl => ?_, fun n => ?_, fun b => ?_,
    fun declared actual => ?_, ?_⟩, hv.length_le,
    fun _ _ hf ht => Record.stream_frames hf ht,
    fun _ _ _ _ hf ht hf' ht' => Record.frames_unique hf ht hf' ht'⟩
  · rw [← Nat.zero_add earlier.length]
    exact hv.goes_on hs hl
  · rw [Record.stream_ok_iff, hv.none_iff]
  · rw [Record.stream_error_iff, hv.some_iff, refused_invalid_iff]
  · rw [Record.stream_error_iff, hv.some_iff, refused_truncated_iff]
  · rcases hv.error_cases with he | ⟨b, he⟩ | ⟨declared, actual, he⟩
    · exact .inl ⟨_, Record.stream_ok_iff.mpr ⟨rfl, he⟩⟩
    · exact .inr (.inl ⟨b, Record.stream_error_iff.mpr he⟩)
    · exact .inr (.inr ⟨declared, actual, Record.stream_error_iff.mpr he⟩)

end MarketFeed
