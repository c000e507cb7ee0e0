import MarketFeed.Proofs.Record.Codec
import MarketFeed.Proofs.Session.Run

set_option autoImplicit false

/-!
# What a stream leaves in the feed

`Session.pushStream` visits the records of a buffer and pushes each of them: the visitor goes on as
long as a push reaches the engine (`Session.pushStream_eq`). Where it does, the records are queued
with their bytes, and counted. Where the engine is gone nothing is queued, but the record that found
this out is counted all the same (`push_stream_queues`).
-/

namespace MarketFeed

namespace Record

theorem not_refused_frame {f : Bytes} {e : DecodeError} (hf : IsFrame f) (rest : Bytes) :
    ¬ Refused (f ++ rest) e := by
  obtain ⟨hlen, hw⟩ := hf
  cases f with
  | nil => cases hw
  | cons b tail =>
    rw [List.headD_cons] at hlen
    rw [Header.width] at hw
    rintro (⟨-, hb⟩ | ⟨-, -, hlt⟩)
    · omega
    · simp only [List.append_eq, List.length_cons, List.length_append] at hlt hlen
      omega

theorem decode_refused {bs : Bytes} {e : DecodeError} (h : Refused bs e) :
    decode bs = .error e := by
  rcases decode_cases bs with ⟨hw, -⟩ | ⟨e', he, hd⟩ | ⟨f, rest, hd, rfl, hf, -, -⟩
  · exact absurd h.width_le (Nat.not_le_of_lt hw)
  · rw [hd, he.unique h]
  · exact absurd h (not_refused_frame hf rest)

theorem split_refused (visit : Nat → Record → Bool) (n : Nat) {bs : Bytes} {e : DecodeError}
    (h : Refused bs e) : split visit n bs = ⟨[], some e⟩ := by
  have hd := decode_refused h
  rw [split]
  split
  · rename_i hshort
    rw [hshort] at hd
    cases hd
    cases h
  · rename_i herror
    rw [herror] at hd
    cases hd
    rfl
  · rename_i hok
    rw [hok] at hd
    cases hd

theorem split_declined {visit : Nat → Record → Bool} {n : Nat} {bs : Bytes} {r : Record}
    (hd : decode bs = .ok r) (hv : visit n r = false) : split visit n bs = ⟨[r], none⟩ := by
  rw [split]
  split
  · rename_i hshort
    rw [hshort] at hd
    cases hd
  · rename_i herror
    rw [herror] at hd
    cases hd
  · rename_i hok
    rw [hok] at hd
    cases hd
    rw [hv]
    exact if_neg Bool.false_ne_true

/-- A visitor that declines at once sees the first record, if there is one. -/
theorem stream_declined (buffer : Bytes) :
    (∀ r, decode buffer = .ok r → stream (fun _ _ => false) buffer = (.ok 1, [r])) ∧
    (∀ e, Refused buffer e → stream (fun _ _ => false) buffer = (.error e, [])) ∧
    (buffer.length < Header.width → stream (fun _ _ => false) buffer = (.ok 0, [])) := by
  refine ⟨fun r hr => ?_, fun e he => ?_, fun hw => ?_⟩
  · rw [stream, split_declined hr rfl]
    rfl
  · rw [stream, split_refused _ _ he]
  · rw [stream, split_short _ _ hw]
    rfl

/-- Every record that is visited is decoded again from its bytes. -/
theorem decode_visited {visit : Nat → Record → Bool} {buffer : Bytes} {r : Record}
    (hr : r ∈ (stream visit buffer).2) : decode r.bytes = .ok r := by
  obtain ⟨left, hv⟩ := split_visited visit 0 buffer
  rw [stream_seen] at hr
  obtain ⟨hf, hread⟩ := hv.frames r hr
  obtain ⟨hd, hread', hdec⟩ := decode_frame hf []
  rw [hread, Option.some.injEq] at hread'
  rw [List.append_nil] at hdec
  rw [hdec, ← hread']

end Record

namespace Session

variable {s : Session} {e : Replay}

theorem engine_of_feedOpen (h : s.feedOpen = true) : ∃ e, s.engine = .replay e := by
  unfold feedOpen at h
  split at h
  · exact ⟨_, by assumption⟩
  · cases h

/-- Events that reach the engine are queued in their order. -/
theorem foldl_push (he : s.engine = .replay e) (ho : s.feedOpen = true) (events : List FeedEvent) :
    events.foldl (fun s event => (s.push event).2) s =
      { s with engine := .replay { e with queue := e.queue ++ events } } := by
  induction events generalizing s e with
  | nil =>
    rw [List.append_nil, List.foldl_nil, ← he]
  | cons event events ih =>
    have hpush : (s.push event).2 = { s with engine := .replay (e.push event) } := by
      simp only [push, he, ho, if_true]
    have ho' : ({ s with engine := .replay (e.push event) } : Session).feedOpen = true := by
      simpa only [feedOpen, he, Replay.push, Replay.isRunning] using ho
    rw [List.foldl_cons, hpush, ih rfl ho']
    simp [Replay.push]

theorem push_closed (ho : s.feedOpen = false) (event : FeedEvent) : s.push event = (false, s) := by
  cases he : s.engine with
  | replay e => simp [push, he, ho]
  | manual e => simp [push, he]

theorem foldl_push_closed (ho : s.feedOpen = false) (events : List FeedEvent) :
    events.foldl (fun s event => (s.push event).2) s = s := by
  induction events with
  | nil => rfl
  | cons event events ih => rwa [List.foldl_cons, push_closed ho]

/-- The records that are visited are pushed one after the other, and a push that does not reach the
engine is the last one. -/
theorem pushStream_eq (s : Session) (buffer : Bytes) :
    let visit := Record.stream (fun _ _ => s.feedOpen) buffer
    s.pushStream buffer =
      (visit.1,
        (visit.2.map fun r => .record r.bytes).foldl (fun s event => (s.push event).2) s) := by
  intro visit
  cases ho : s.feedOpen with
  | false =>
    rw [foldl_push_closed ho]
    cases he : s.engine <;> simp [pushStream, he, ho, visit]
  | true =>
    obtain ⟨e, he⟩ := engine_of_feedOpen ho
    rw [foldl_push he ho]
    simp [pushStream, he, ho, visit, Replay.pushStream]

/-- While the feed reaches an engine, all records up to what is left are queued and counted. -/
theorem pushStream_open (ho : s.feedOpen = true) (buffer : Bytes) :
    let visited := (Record.stream (fun _ _ => true) buffer).2
    ∃ left, visited.flatMap (·.bytes) ++ left = buffer ∧
      (s.pushStream buffer).2.queue = s.queue ++ visited.map (.record ·.bytes) ∧
      (∀ n, (s.pushStream buffer).1 = .ok n ↔ n = visited.length ∧ left.length < Header.width) ∧
      ∀ cause, (s.pushStream buffer).1 = .error cause ↔ Refused left cause := by
  intro visited
  obtain ⟨left, hv⟩ := Record.split_visited (fun _ _ => true) 0 buffer
  rw [← Record.stream_seen] at hv
  have hgoes : ¬ Declined (fun _ _ => true) 0 visited := by
    rintro ⟨_, _, _, hd⟩
    cases hd
  obtain ⟨e, he⟩ := engine_of_feedOpen ho
  rw [pushStream_eq]
  simp only [ho]
  refine ⟨left, hv.bytes, ?_, fun n => ?_, fun cause => ?_⟩
  · rw [foldl_push he ho]
    simp only [queue, he]
    rfl
  · rw [Record.stream_ok_iff, hv.none_iff]
    simp only [visited] at hgoes
    simp [hgoes, visited]
  · rw [Record.stream_error_iff, hv.some_iff]
    exact and_iff_right hgoes

theorem pushStream_closed (ho : s.feedOpen = false) (buffer : Bytes) :
    s.pushStream buffer = ((Record.stream (fun _ _ => false) buffer).1, s) := by
  rw [pushStream_eq, foldl_push_closed ho]
  simp only [ho]

end Session

/-- What a stream leaves in the feed and answers, whatever the buffer:

* The records that are visited are pushed, one after the other. Each of them is decoded again from
  its bytes, so a loop that takes them from the feed delivers the same records.
* While the feed reaches an engine, the visited records make up the buffer but for what is left, and
  are queued behind what is in the feed, with their bytes. Their number is answered if what is left
  is too short for a header, and an error just if it begins with no frame; the records before the
  error stay in the feed.
* Once the engine is gone the session stays as it is. A record at the front of the buffer is counted
  although it was not queued, and an error there is answered.
* So a count is that of the records that were queued just if the feed reaches an engine or nothing
  was counted. -/
theorem push_stream_queues (s : Session) (buffer : Bytes) :
    let visited := (Record.stream (fun _ _ => s.feedOpen) buffer).2
    let answer := (s.pushStream buffer).1
    let after := (s.pushStream buffer).2
    (after = (visited.map fun r => .record r.bytes).foldl (fun s event => (s.push event).2) s ∧
      ∀ r ∈ visited, ∀ (e : Replay) (loop : Replay.Loop) (queue : List FeedEvent),
        e.loop = some loop → loop.greeted = true → e.shutdown = false →
        e.queue = .record r.bytes :: queue → e.turn.1 = .record r) ∧
    (s.feedOpen = true → ∃ left, visited.flatMap (·.bytes) ++ left = buffer ∧
      after.queue = s.queue ++ visited.map (.record ·.bytes) ∧
      (∀ n, answer = .ok n ↔ n = visited.length ∧ left.length < Header.width) ∧
      ∀ cause, answer = .error cause ↔ Refused left cause) ∧
    (s.feedOpen = false → after = s ∧
      (∀ r, Record.decode buffer = .ok r → visited = [r] ∧ answer = .ok 1) ∧
      (∀ cause, Refused buffer cause → visited = [] ∧ answer = .error cause) ∧
      (buffer.length < Header.width → visited = [] ∧ answer = .ok 0)) ∧
    ∀ n, answer = .ok n →
      (after.queue.length = s.queue.length + n ↔ s.feedOpen = true ∨ n = 0) := by
  intro visited answer after
  refine ⟨⟨congrArg Prod.snd (s.pushStream_eq buffer), fun r hr e loop queue hl hg hsd hq => ?_⟩,
    fun ho => ?_, fun ho => ?_, fun n hn => ?_⟩
  · rw [Replay.turn_take hl hg hsd hq]
    simp only [Replay.Turn.ofEvent, Record.decode_visited hr]
  · have h := Session.pushStream_open ho buffer
    rwa [← ho] at h
  · obtain ⟨hok, herror, hshort⟩ := Record.stream_declined buffer
    have hclosed := Session.pushStream_closed ho buffer
    simp only [visited, answer, after, ho, hclosed]
    refine ⟨trivial, fun r hr => ?_, fun cause hc => ?_, fun hw => ?_⟩
    · rw [hok r hr]
      exact ⟨rfl, rfl⟩
    · rw [herror cause hc]
      exact ⟨rfl, rfl⟩
    · rw [hshort hw]
      exact ⟨rfl, rfl⟩
  · cases ho : s.feedOpen with
    | true =>
      obtain ⟨left, -, hqueue, hcount, -⟩ := Session.pushStream_open ho buffer
      refine iff_of_true ?_ (.inl rfl)
      rw [((hcount n).mp hn).1, hqueue, List.length_append, List.length_map]
    | false =>
      have hclosed := Session.pushStream_closed ho buffer
      simp only [after, hclosed, Bool.false_eq_true, false_or]
      omega

/-- A trade is queued and stays in the feed, and the zeros behind it are answered as an error. -/
theorem push_stream_queues_before_error :
    let s := Session.new default (.replay (.new default))
    let trade : Message := ⟨.bare 0 1 2 3, .trade ⟨-5, 7, 'T', 'B', 0, 1, 4, -6, 8⟩⟩
    let zeros : Bytes := List.replicate Header.width 0
    s.feedOpen = true ∧
      (s.pushStream (trade.encode ++ zeros)).1 = .error (.invalidLength 0) ∧
      (s.pushStream (trade.encode ++ zeros)).2.queue = [.record trade.encode] := by
  intro s trade zeros
  have ho : s.feedOpen = true := rfl
  have hzeros : Refused zeros (.invalidLength 0) := .invalid (by decide) (by decide)
  have hvisited : (Record.stream (fun _ _ => s.feedOpen) (trade.encode ++ zeros)).2 =
      [⟨trade.wireHeader, trade.encode⟩] := by
    have hd := trade.decode_encode_append zeros
    rw [Record.stream_seen, Record.split_frame _ 0 ⟨trade.wireHeader, trade.encode⟩ hd ho,
      Record.split_refused _ _ hzeros]
  obtain ⟨left, hbytes, hqueue, -, herror⟩ :=
    (push_stream_queues s (trade.encode ++ zeros)).2.1 ho
  rw [hvisited] at hbytes hqueue
  have hleft : left = zeros := by
    rw [List.flatMap_singleton] at hbytes
    exact List.append_cancel_left hbytes
  exact ⟨ho, (herror _).mpr (hleft ▸ hzeros), hqueue⟩

/-- A stream that comes after its session was given up: the trade is counted and not queued. A push
of the same bytes says that it was not. -/
theorem push_stream_counts_unqueued :
    let s := (Session.new default (.replay (.new default))).after [.release false]
    let trade : Message := ⟨.bare 0 1 2 3, .trade ⟨-5, 7, 'T', 'B', 0, 1, 4, -6, 8⟩⟩
    s.pushStream trade.encode = (.ok 1, s) ∧ s.queue = [] ∧
      s.push (.record trade.encode) = (false, s) := by
  intro s trade
  have ho : s.feedOpen = false := rfl
  have hd := trade.decode_encode_append []
  rw [List.append_nil] at hd
  refine ⟨?_, rfl, Session.push_closed ho _⟩
  rw [Session.pushStream_closed ho, (Record.stream_declined _).1 _ hd]

end MarketFeed
