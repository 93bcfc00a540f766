/-
The framing of a container's log stream, from the side that writes it: what
`demultiplex` makes of a stream of frames that is cut off anywhere, and of one
that is not framed at all.
-/
import TeslamateWatchdog.DockerClient
import TeslamateWatchdog.Foundation.BigEndian

namespace TeslamateWatchdog

open Foundation

/-- One frame as Docker writes it: its stream type and what it carries. -/
structure LogFrame where
  stream : UInt8
  payload : List UInt8
  stream_valid : stream ∈ [0, 1, 2]
  payload_fits : payload.length < 2 ^ 32

namespace LogFrame

def header (frame : LogFrame) : List UInt8 :=
  [frame.stream, 0, 0, 0] ++ BigEndian.encode 4 frame.payload.length

/-- The bytes of a stream of frames. -/
def encode (stream : List LogFrame) : List UInt8 :=
  stream.flatMap fun frame => frame.header ++ frame.payload

/-- The same bytes, each with whether it belongs to a payload. -/
def layout (stream : List LogFrame) : List (Bool × UInt8) :=
  stream.flatMap fun frame =>
    frame.header.map (false, ·) ++ frame.payload.map (true, ·)

/-- The payload bytes among labelled bytes, in order. -/
def payloadBytes (bytes : List (Bool × UInt8)) : List UInt8 :=
  bytes.filterMap fun byte => if byte.1 then some byte.2 else none

theorem layout_map_snd (stream : List LogFrame) :
    (layout stream).map Prod.snd = encode stream := by
  induction stream with
  | nil => rfl
  | cons frame rest ih =>
      have hsplit : layout (frame :: rest) =
          (frame.header.map (false, ·) ++ frame.payload.map (true, ·)) ++
            layout rest := rfl
      rw [hsplit, List.map_append, ih]
      simp [encode, Function.comp_def]

@[simp]
theorem length_header (frame : LogFrame) :
    frame.header.length = DockerClient.frameHeader := by
  simp [header, DockerClient.frameHeader]

theorem payloadBytes_append (front back : List (Bool × UInt8)) :
    payloadBytes (front ++ back) = payloadBytes front ++ payloadBytes back :=
  List.filterMap_append

theorem payloadBytes_header (bytes : List UInt8) :
    payloadBytes (bytes.map (false, ·)) = [] := by
  simp [payloadBytes]

theorem payloadBytes_payload (bytes : List UInt8) :
    payloadBytes (bytes.map (true, ·)) = bytes := by
  simp [payloadBytes]

/-- The payload bytes that lie in the first `n` bytes of a stream are those of
its first frame, and then those of the rest of the stream. -/
theorem payloadBytes_take_layout (frame : LogFrame) (rest : List LogFrame)
    (n : Nat) :
    payloadBytes ((layout (frame :: rest)).take n) =
      frame.payload.take (n - DockerClient.frameHeader) ++
        payloadBytes ((layout rest).take
          (n - DockerClient.frameHeader - frame.payload.length)) := by
  have hsplit : layout (frame :: rest) = frame.header.map (false, ·) ++
      (frame.payload.map (true, ·) ++ layout rest) := by
    simp [layout]
  rw [hsplit, List.take_append, List.take_append, ← List.map_take,
    ← List.map_take, payloadBytes_append, payloadBytes_append,
    payloadBytes_header, payloadBytes_payload]
  simp

end LogFrame

namespace DockerClient

/-- The check `demultiplex` makes of a header. -/
def ValidHeader (header : List UInt8) : Prop :=
  header.getD 0 0 ∈ ([0, 1, 2] : List UInt8) ∧
    (header.drop 1).take 3 = [0, 0, 0]

instance (header : List UInt8) : Decidable (ValidHeader header) :=
  inferInstanceAs (Decidable (_ ∧ _))

/-- The length of the payload a header announces. -/
def headerSize (header : List UInt8) : Nat :=
  BigEndian.decode (header.drop 4)

/-- The rounds of the loop of `demultiplex`, as many as it takes. -/
inductive Rounds : List UInt8 → Option (List (List UInt8)) → Prop
  | done {raw : List UInt8} (hshort : raw.length < frameHeader) :
      Rounds raw (some [])
  | raw {raw : List UInt8} (hlong : frameHeader ≤ raw.length)
      (hheader : ¬ ValidHeader (raw.take frameHeader)) : Rounds raw none
  | frame {raw : List UInt8} {chunks : Option (List (List UInt8))}
      (hlong : frameHeader ≤ raw.length)
      (hheader : ValidHeader (raw.take frameHeader))
      (hrest : Rounds ((raw.drop frameHeader).drop
        (headerSize (raw.take frameHeader))) chunks) :
      Rounds raw (chunks.map
        ((raw.drop frameHeader).take (headerSize (raw.take frameHeader)) :: ·))

theorem frames_of_short {raw : List UInt8} (fuel : Nat)
    (hshort : raw.length < frameHeader) : frames fuel raw = some [] := by
  cases fuel with
  | zero => rfl
  | succ fuel => rw [frames, if_pos hshort]

theorem frames_of_invalid {raw : List UInt8} (fuel : Nat)
    (hlong : frameHeader ≤ raw.length)
    (hheader : ¬ ValidHeader (raw.take frameHeader)) :
    frames (fuel + 1) raw = none := by
  rw [frames, if_neg (by omega)]
  dsimp only
  rw [if_pos]
  by_cases hstream : (raw.take frameHeader).getD 0 0 ∈ ([0, 1, 2] : List UInt8)
  · exact Or.inr fun hzeros => hheader ⟨hstream, hzeros⟩
  · exact Or.inl hstream

theorem frames_of_valid {raw : List UInt8} (fuel : Nat)
    (hlong : frameHeader ≤ raw.length)
    (hheader : ValidHeader (raw.take frameHeader)) :
    frames (fuel + 1) raw =
      (frames fuel ((raw.drop frameHeader).drop
        (headerSize (raw.take frameHeader)))).map
        ((raw.drop frameHeader).take (headerSize (raw.take frameHeader)) :: ·) := by
  rw [frames, if_neg (by omega)]
  dsimp only
  rw [if_neg]
  · rfl
  · rintro (hstream | hzeros)
    · exact hstream hheader.1
    · exact hzeros hheader.2

/-- The loop ends on every byte string: a round uses up at least a header, so
as many rounds as there are bytes are enough. -/
theorem rounds_frames (fuel : Nat) (raw : List UInt8)
    (hfuel : raw.length ≤ fuel) : Rounds raw (frames fuel raw) := by
  induction fuel generalizing raw with
  | zero =>
      apply Rounds.done
      rw [frameHeader]
      omega
  | succ fuel ih =>
      by_cases hshort : raw.length < frameHeader
      · rw [frames_of_short _ hshort]
        exact Rounds.done hshort
      · have hlong : frameHeader ≤ raw.length := by omega
        by_cases hheader : ValidHeader (raw.take frameHeader)
        · rw [frames_of_valid _ hlong hheader]
          apply Rounds.frame hlong hheader
          apply ih
          have hused : frameHeader = 8 := rfl
          simp only [List.length_drop]
          omega
        · rw [frames_of_invalid _ hlong hheader]
          exact Rounds.raw hlong hheader

/-- It ends in one way only. -/
theorem Rounds.unique {raw : List UInt8}
    {first second : Option (List (List UInt8))} (hfirst : Rounds raw first)
    (hsecond : Rounds raw second) : first = second := by
  induction hfirst generalizing second with
  | done hshort =>
      cases hsecond with
      | done => rfl
      | raw hlong => omega
      | frame hlong => omega
  | raw hlong hheader =>
      cases hsecond with
      | done hshort => omega
      | raw => rfl
      | frame _ hvalid => exact absurd hvalid hheader
  | frame hlong hheader _ ih =>
      cases hsecond with
      | done hshort => omega
      | raw _ hinvalid => exact absurd hheader hinvalid
      | frame _ _ hrest => rw [ih hrest]

theorem demultiplex_of_rounds {raw : List UInt8} {chunks : List (List UInt8)}
    (hrounds : Rounds raw (some chunks)) (hlong : frameHeader ≤ raw.length) :
    demultiplex raw = Utf8.decode chunks.flatten := by
  have hframes : frames raw.length raw = some chunks :=
    (rounds_frames _ raw le_rfl).unique hrounds
  rw [demultiplex, if_neg (by omega), hframes]

/-- A stream that does not start with a valid header is decoded whole. -/
theorem demultiplex_of_not_framed {raw : List UInt8}
    (hraw : raw.length < frameHeader ∨
      ¬ ValidHeader (raw.take frameHeader)) :
    demultiplex raw = Utf8.decode raw := by
  by_cases hshort : raw.length < frameHeader
  · rw [demultiplex, if_pos hshort]
  · have hlong : frameHeader ≤ raw.length := by omega
    have hnone : frames raw.length raw = none :=
      (rounds_frames _ raw le_rfl).unique
        (Rounds.raw hlong (hraw.resolve_left hshort))
    rw [demultiplex, if_neg hshort, hnone]

end DockerClient

namespace LogFrame

open DockerClient

theorem validHeader_header (frame : LogFrame) :
    ValidHeader frame.header :=
  ⟨frame.stream_valid, rfl⟩

theorem headerSize_header (frame : LogFrame) :
    headerSize frame.header = frame.payload.length :=
  BigEndian.decode_encode 4 _ frame.payload_fits

/-- A frame's header is followed by what the frame announces, as far as it is
there. -/
theorem rounds_header_append (frame : LogFrame) {rest : List UInt8}
    {chunks : List (List UInt8)}
    (hrest : Rounds (rest.drop frame.payload.length) (some chunks)) :
    Rounds (frame.header ++ rest)
      (some (rest.take frame.payload.length :: chunks)) := by
  have hhead : (frame.header ++ rest).take frameHeader = frame.header :=
    List.take_left' frame.length_header
  have htail : (frame.header ++ rest).drop frameHeader = rest :=
    List.drop_left' frame.length_header
  have hlong : frameHeader ≤ (frame.header ++ rest).length := by
    rw [List.length_append, length_header]
    omega
  have hheader : ValidHeader ((frame.header ++ rest).take frameHeader) := by
    rw [hhead]
    exact frame.validHeader_header
  have hround := @Rounds.frame _ (some chunks) hlong hheader
  rw [hhead, htail, headerSize_header] at hround
  exact hround hrest

/-- What the loop collects from the first `n` bytes of a stream of frames. -/
theorem rounds_take_encode (stream : List LogFrame) (n : Nat) :
    ∃ chunks, Rounds ((encode stream).take n) (some chunks) ∧
      chunks.flatten = payloadBytes ((layout stream).take n) := by
  induction stream generalizing n with
  | nil =>
      refine ⟨[], Rounds.done ?_, ?_⟩
      · simp [encode, frameHeader]
      · simp [layout, payloadBytes]
  | cons frame rest ih =>
      have hsplit : encode (frame :: rest) =
          frame.header ++ (frame.payload ++ encode rest) := by
        simp [encode]
      rw [hsplit, payloadBytes_take_layout]
      by_cases hcut : n < frameHeader
      · have hnothing : n - frameHeader = 0 := by omega
        refine ⟨[], Rounds.done ?_, ?_⟩
        · rw [List.length_take]
          omega
        · simp [hnothing, payloadBytes]
      · obtain ⟨chunks, hrounds, hchunks⟩ :=
          ih (n - frameHeader - frame.payload.length)
        have htake : (frame.header ++ (frame.payload ++ encode rest)).take n =
            frame.header ++
              (frame.payload ++ encode rest).take (n - frameHeader) := by
          rw [List.take_append, length_header,
            List.take_of_length_le (by rw [length_header]; omega)]
        have hdrop : ((frame.payload ++ encode rest).take
            (n - frameHeader)).drop frame.payload.length =
              (encode rest).take (n - frameHeader - frame.payload.length) := by
          rw [List.drop_take, List.drop_left]
        have hchunk : ((frame.payload ++ encode rest).take
            (n - frameHeader)).take frame.payload.length =
              frame.payload.take (n - frameHeader) := by
          rw [List.take_take, Nat.min_comm, ← List.take_take, List.take_left]
        rw [← hdrop] at hrounds
        refine ⟨_, htake ▸ rounds_header_append frame hrounds, ?_⟩
        rw [List.flatten_cons, hchunk, hchunks]

/-- Every truncation of a stream of frames gives the text of the payload bytes
that are there; what is not framed gives its own text; and the loop of
`demultiplex` ends on every byte string, with what `frames` computes. -/
theorem demultiplex_exact :
    (∀ (stream : List LogFrame) (n : Nat),
      (n = 0 ∨ frameHeader ≤ n ∧ n ≤ (encode stream).length) →
      demultiplex ((encode stream).take n) =
        Utf8.decode (payloadBytes ((layout stream).take n))) ∧
    (∀ raw : List UInt8,
      (raw.length < frameHeader ∨ ¬ ValidHeader (raw.take frameHeader)) →
      demultiplex raw = Utf8.decode raw) ∧
    ∀ (raw : List UInt8) (outcome : Option (List (List UInt8))),
      Rounds raw outcome ↔ outcome = frames raw.length raw := by
  refine ⟨?_, fun raw => demultiplex_of_not_framed, ?_⟩
  · rintro stream n (rfl | ⟨hcut, hn⟩)
    · simp [demultiplex, frameHeader, payloadBytes]
    · obtain ⟨chunks, hrounds, hchunks⟩ := rounds_take_encode stream n
      have hlong : frameHeader ≤ ((encode stream).take n).length := by
        rw [List.length_take]
        omega
      rw [demultiplex_of_rounds hrounds hlong, hchunks]
  · intro raw outcome
    constructor
    · intro hrounds
      exact hrounds.unique (rounds_frames _ raw le_rfl)
    · rintro rfl
      exact rounds_frames _ raw le_rfl

/-- A two-byte character, cut in the middle by the end of a frame. -/
def split : List LogFrame :=
  [⟨1, [0x68, 0xc3], by decide, by decide⟩, ⟨2, [], by decide, by decide⟩,
    ⟨1, [0xa9, 0x0a], by decide, by decide⟩]

theorem demultiplex_exact_split :
    (layout split).map Prod.snd = encode split ∧
      demultiplex ((encode split).take 27) = "hé" ∧
      demultiplex ((encode split).take 9) = "h" ∧
      demultiplex [0x68, 0x69] = "hi" := by
  refine ⟨layout_map_snd split, ?_, ?_, ?_⟩
  · rw [demultiplex_exact.1 split 27 (by decide)]
    decide +kernel
  · rw [demultiplex_exact.1 split 9 (by decide)]
    decide +kernel
  · rw [demultiplex_exact.2.1 [0x68, 0x69] (by decide)]
    decide +kernel

end LogFrame

end TeslamateWatchdog
