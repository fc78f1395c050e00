/-
**How a body is cut does not matter.**

The limit of bodies is watched at two places: at the length that a request declares, and at the data
as they come, piece by piece.  Both draw the same line.  As long as no failure comes between, it is
the length of the data alone that counts, wherever they are cut and wherever trailers stand; and a
request that declares the length its data have is answered as if it had declared none.

Main definitions:

* `AssemblyGate.Body.Exceeds` — data that come before any failure bring the total over the limit;
* `AssemblyGate.States` — a header value is the numeral of a length;
* `AssemblyGate.Reply.Agrees` — two replies that differ at most in what was logged.

Main results:

* `AssemblyGate.Body.collect_eq_overLimit_iff`, `AssemblyGate.Body.collect_of_clean` — what reading
  frames comes to, told by running totals;
* `AssemblyGate.Validation.framings_agree` — **the answer depends on the data of a body and not on
  their cutting**, nor on whether their length was declared.
-/
import AssemblyGate.Proofs.Service.Intake
import AssemblyGate.Proofs.Settings.Conversion

set_option autoImplicit false

namespace AssemblyGate

namespace Body

/-! ### Running totals -/

/-- Some piece of data before any failure brings the total over the limit. -/
def Exceeds (limit : Nat) (frames : List Frame) : Prop :=
  ∃ before bytes after, frames = before ++ .data bytes :: after ∧ Clean before ∧
    limit < (dataOf before).length + bytes.length

@[simp] theorem dataOf_append (frames more : List Frame) :
    dataOf (frames ++ more) = dataOf frames ++ dataOf more := List.flatMap_append

@[simp] theorem dataOf_singleton (frame : Frame) : dataOf [frame] = bytesOf frame := by
  simp [dataOf]

theorem clean_append {frames more : List Frame} :
    Clean (frames ++ more) ↔ Clean frames ∧ Clean more := by
  simp only [Clean, List.mem_append, not_or, forall_and]

/-- Frames without a failure whose data are over the limit have gone over it at some piece. -/
theorem overflows_append {limit : Nat} {before : List Frame} (hclean : Clean before)
    (hover : limit < (dataOf before).length) (rest : List Frame) :
    Overflows limit (before ++ rest) := by
  -- from the end, up to the last piece in front of which the data still fit
  induction before using List.reverseRecOn generalizing rest with
  | nil => simp [dataOf] at hover
  | append_singleton before frame ih =>
      rw [clean_append] at hclean
      rw [List.append_assoc, List.singleton_append]
      by_cases hearlier : limit < (dataOf before).length
      · exact ih hclean.1 hearlier _
      rw [dataOf_append, List.length_append, dataOf_singleton] at hover
      cases frame with
      | data bytes =>
          exact ⟨before, bytes, rest, rfl, hclean.1, Nat.le_of_not_lt hearlier, hover⟩
      | trailers headers => exact absurd hover hearlier
      | failed message => exact absurd (List.mem_singleton_self _) (hclean.2 message)

theorem overflows_iff_exceeds {limit : Nat} {frames : List Frame} :
    Overflows limit frames ↔ Exceeds limit frames := by
  constructor
  · rintro ⟨before, bytes, after, hframes, hclean, -, hover⟩
    exact ⟨before, bytes, after, hframes, hclean, hover⟩
  · rintro ⟨before, bytes, after, rfl, hclean, hover⟩
    have hdata : limit < (dataOf (before ++ [.data bytes])).length := by
      rwa [dataOf_append, List.length_append, dataOf_singleton]
    have hpiece : Clean (before ++ [.data bytes]) :=
      clean_append.2 ⟨hclean, fun message hm => by simp at hm⟩
    simpa using overflows_append hpiece hdata after

/-- Reading stops at the limit exactly when data before any failure go over it. -/
theorem collect_eq_overLimit_iff {limit : Nat} {frames : List Frame} :
    collect limit frames = .error .overLimit ↔ Exceeds limit frames := by
  rw [← overflows_iff_exceeds]
  refine ⟨fun h => ?_, collect_of_overflows⟩
  rcases ends limit frames with ⟨body, harrives⟩ | hover | ⟨message, hbreaks⟩
  · rw [collect_of_arrives harrives] at h
    cases h
  · exact hover
  · rw [collect_of_breaks hbreaks] at h
    cases h

/-- Reading meets a failure when there is one and the data in front of it fit. -/
theorem collect_of_failed {limit : Nat} {frames : List Frame} (hfits : ¬Exceeds limit frames)
    (hfailed : ∃ message, Frame.failed message ∈ frames) :
    ∃ message, Frame.failed message ∈ frames ∧
      collect limit frames = .error (.failed message) := by
  obtain ⟨other, hother⟩ := hfailed
  rcases ends limit frames with ⟨body, hclean, -⟩ | hover | ⟨message, hbreaks⟩
  · exact absurd hother (hclean other)
  · exact absurd (overflows_iff_exceeds.1 hover) hfits
  · obtain ⟨before, after, rfl, -⟩ := id hbreaks
    exact ⟨message, by simp, collect_of_breaks hbreaks⟩

/-- Where no failure comes, the length of all data decides. -/
theorem collect_of_clean {limit : Nat} {frames : List Frame} (hclean : Clean frames) :
    collect limit frames =
      if limit < (dataOf frames).length then .error .overLimit else .ok (dataOf frames) := by
  split
  · rename_i hover
    simpa using collect_of_overflows (overflows_append hclean hover [])
  · rename_i hfits
    exact collect_of_arrives ⟨hclean, rfl, Nat.le_of_not_lt hfits⟩

theorem exceeds_iff_of_clean {limit : Nat} {frames : List Frame} (hclean : Clean frames) :
    Exceeds limit frames ↔ limit < (dataOf frames).length := by
  rw [← collect_eq_overLimit_iff, collect_of_clean hclean]
  split <;> simp_all

end Body

/-! ### Stated lengths -/

/-- A header value states a length: it is the numeral of it, with a plus sign or without. -/
def States (value : Bytes) (size : Nat) : Prop :=
  ∃ front digits, value = Utf8.encode (front ++ digits) ∧ (front = [] ∨ front = ['+']) ∧
    Numeral.Digits digits ∧ Numeral.ofDigits digits = size

/-- No header value states two lengths. -/
theorem States.unique {value : Bytes} {size size' : Nat} (h : States value size)
    (h' : States value size') : size = size' := by
  obtain ⟨front, digits, hvalue, hfront, hdigits, rfl⟩ := h
  obtain ⟨front', digits', hvalue', hfront', hdigits', rfl⟩ := h'
  have hsame : front ++ digits = front' ++ digits' := by
    have hread := Utf8.decode?_iff_encode.2 (hvalue.symm.trans hvalue')
    rw [Utf8.decode?_iff_encode.2 rfl] at hread
    exact Option.some.inj hread
  obtain ⟨c, tail, rfl, hplus, -⟩ := hdigits.exists_cons
  obtain ⟨c', tail', rfl, hplus', -⟩ := hdigits'.exists_cons
  rcases hfront with rfl | rfl <;> rcases hfront' with rfl | rfl <;>
    simp_all [eq_comm]

variable {σ : Type}

/-- Two replies that differ at most in what was logged. -/
structure Reply.Agrees (r r' : Reply σ) : Prop where
  response : r.response = r'.response
  compiled : r.compiled = r'.compiled
  state : r.state = r'.state

namespace Reply

theorem Agrees.refl (r : Reply σ) : r.Agrees r := ⟨rfl, rfl, rfl⟩

theorem Agrees.after_left {r r' : Reply σ} (h : r.Agrees r') (events : List Event) :
    (r.after events).Agrees r' := ⟨h.response, h.compiled, h.state⟩

end Reply

namespace Validation

/-! ### Requests -/

theorem framesReply_congr (host : Host σ) {settings : Settings} {frames frames' : List Frame}
    (h : Body.collect (bodyLimit settings) frames' = Body.collect (bodyLimit settings) frames)
    (s : σ) : framesReply host settings frames' s = framesReply host settings frames s := by
  rw [framesReply_eq, framesReply_eq, intakeFrames, intakeFrames, h]

/-- A request without a declared length is answered by its frames. -/
theorem validate_of_silent (host : Host σ) (settings : Settings) {r : Request}
    (h : r.header? "content-length" = none) (s : σ) :
    validate host settings r s = framesReply host settings r.frames s := by
  have hdeclared : declared settings.http.maxBodySize.toNat r = .fits := by
    simp only [declared, h]
  simp only [validate, hdeclared, declaredEvents]
  rfl

/-- The reply to a body that has not been read. -/
theorem framesReply_of_error (host : Host σ) {settings : Settings} {frames : List Frame}
    {e : BodyError} (h : Body.collect (bodyLimit settings) frames = .error e) (s : σ) :
    framesReply host settings frames s
      = (Reply.ofAnswer (unread e) s).after [bodyEvent (bodyLimit settings) e] := by
  rw [framesReply_eq, intakeFrames, h]
  rfl

theorem framesReply_of_ok (host : Host σ) {settings : Settings} {frames : List Frame}
    {body : Bytes} (h : Body.collect (bodyLimit settings) frames = .ok body) (s : σ) :
    framesReply host settings frames s = bodyReply host settings.assembler body s := by
  rw [framesReply_eq, intakeFrames, h, bodyReply_eq]

/-- A request that states the length of its data is answered as its frames are. -/
theorem validate_agrees_of_states (host : Host σ) (settings : Settings) {r : Request}
    {value : Bytes} (hheader : r.header? "content-length" = some value)
    (hclean : Body.Clean r.frames) (hstates : States value (Body.dataOf r.frames).length) (s : σ) :
    (validate host settings r s).Agrees (framesReply host settings r.frames s) := by
  unfold validate
  dsimp only
  refine Reply.Agrees.after_left ?_ _
  split
  case h_2 => exact Reply.Agrees.refl _
  case h_1 size hover =>
    obtain ⟨⟨front, digits, hread, hfront, hdigits, hsize, -⟩, hlimit⟩ :=
      declared_eq_over_iff.1 hover
    obtain rfl : value = Utf8.encode (front ++ digits) := Option.some.inj (hheader.symm.trans hread)
    -- what is refused as declared is the length of the data, so the frames are refused too
    have hlength : size = (Body.dataOf r.frames).length :=
      States.unique ⟨front, digits, rfl, hfront, hdigits, hsize⟩ hstates
    have hcollect : Body.collect (bodyLimit settings) r.frames = .error .overLimit := by
      rw [Body.collect_of_clean hclean, if_pos (hlength ▸ hlimit)]
    rw [framesReply_of_error host hcollect]
    exact ⟨rfl, rfl, rfl⟩

/-- **The answer depends on the data of a body and not on their cutting.**  Without a declared
length, a body is too large when its data go over the limit before any failure, broken when there is
a failure otherwise, and else it is what all its data make together.  Where no failure comes, the
same data in other frames are replied to alike, and so they are when their true length is
declared. -/
theorem framings_agree (host : Host σ) (settings : Settings) (r : Request) (s : σ) :
    (r.header? "content-length" = none →
      (Body.Exceeds (bodyLimit settings) r.frames →
        (validate host settings r s).Agrees
          ⟨⟨413, [("content-type", bytesOf "text/plain")], bytesOf "413 Payload Too Large"⟩,
            none, [], s⟩) ∧
      (¬Body.Exceeds (bodyLimit settings) r.frames →
        (∃ message, Frame.failed message ∈ r.frames) →
        (validate host settings r s).Agrees ⟨⟨400, [], []⟩, none, [], s⟩) ∧
      (¬Body.Exceeds (bodyLimit settings) r.frames →
        Body.Clean r.frames →
        validate host settings r s
          = bodyReply host settings.assembler (Body.dataOf r.frames) s)) ∧
    (Body.Clean r.frames → ∀ r' : Request, Body.Clean r'.frames →
      Body.dataOf r'.frames = Body.dataOf r.frames →
      (r'.header? "content-length" = r.header? "content-length" →
        validate host settings r' s = validate host settings r s) ∧
      (r.header? "content-length" = none → ∀ value,
        r'.header? "content-length" = some value →
        States value (Body.dataOf r.frames).length →
        (validate host settings r' s).Agrees (validate host settings r s))) := by
  refine ⟨fun hsilent => ?_, fun hclean r' hclean' hdata => ?_⟩
  · rw [validate_of_silent host settings hsilent]
    refine ⟨fun hover => ?_, fun hfits hfailed => ?_, fun hfits hclean => ?_⟩
    · rw [framesReply_of_error host (Body.collect_eq_overLimit_iff.2 hover)]
      exact ⟨rfl, rfl, rfl⟩
    · obtain ⟨message, -, hcollect⟩ := Body.collect_of_failed hfits hfailed
      rw [framesReply_of_error host hcollect]
      exact ⟨rfl, rfl, rfl⟩
    · refine framesReply_of_ok host ?_ s
      rw [Body.collect_of_clean hclean, if_neg (mt (Body.exceeds_iff_of_clean hclean).2 hfits)]
  · have hcollect : Body.collect (bodyLimit settings) r'.frames
        = Body.collect (bodyLimit settings) r.frames := by
      rw [Body.collect_of_clean hclean', Body.collect_of_clean hclean, hdata]
    have hframes := framesReply_congr host hcollect s
    refine ⟨fun hheader => ?_, fun hsilent value hheader hstates => ?_⟩
    · have hdeclared : declared settings.http.maxBodySize.toNat r'
          = declared settings.http.maxBodySize.toNat r := by
        simp only [declared, hheader]
      simp only [validate, hdeclared, hframes]
    · rw [validate_of_silent host settings hsilent, ← hframes]
      exact validate_agrees_of_states host settings hheader hclean' (hdata ▸ hstates) s

/-! ### A body in pieces -/

/-- A machine on which every source is assembled without a word. -/
def readyHost : Host Unit where
  makeStaging _ s := (.ok "/tmp/asm-000000", s)
  writeFile _ _ s := (.ok (), s)
  run _ _ s := (.ended (.exited 0) [], s)
  removeTree _ s := s
  isFile _ _ := true
  searchPath _ := none

/-- The standard settings with another limit of bodies. -/
def limitedTo (limit : UInt64) : Settings :=
  { Settings.standard with http := { Settings.standard.http with maxBodySize := limit } }

/-- A body of eighteen bytes. -/
def nopBody : Bytes := bytesOf "\x7b\"assembly\":\"nop\"\x7d"

/-- The same bytes in pieces, with trailers and an empty piece between them. -/
def nopPieces : List Frame :=
  [.data (nopBody.take 5), .trailers [], .data [], .data (nopBody.drop 5)]

/-- A submission with some headers and some frames. -/
def submission (headers : List Header) (frames : List Frame) : Request where
  method := "POST"
  target := ⟨none, "/assembly/validate/", none⟩
  version := "1.1"
  headers := headers
  frames := frames
  peer := .v4 ⟨127, 0, 0, 1⟩ 40000

theorem clean_nopPieces : Body.Clean nopPieces := by
  simp [Body.Clean, nopPieces]

/-- The pieces are too large together, are read up to a failure, or make the body that could have
come as a whole and with its length declared. -/
theorem framings_agree_pieces :
    (validate readyHost (limitedTo 17) (submission [] nopPieces) ()).response.status = 413 ∧
    (validate readyHost (limitedTo 18)
      (submission [] (nopPieces ++ [.failed "reset"])) ()).response.status = 400 ∧
    validate readyHost (limitedTo 18) (submission [] nopPieces) ()
      = bodyReply readyHost (limitedTo 18).assembler nopBody () ∧
    (validate readyHost (limitedTo 18)
      (submission [("content-length", bytesOf "18")] [.data nopBody]) ()).Agrees
      (validate readyHost (limitedTo 18) (submission [] nopPieces) ()) := by
  have hdata : Body.dataOf nopPieces = nopBody := by decide +kernel
  have hover : Body.Exceeds 17 nopPieces :=
    (Body.exceeds_iff_of_clean clean_nopPieces).2 (by rw [hdata]; decide +kernel)
  have hfits : ¬Body.Exceeds 18 nopPieces :=
    mt (Body.exceeds_iff_of_clean clean_nopPieces).1 (by rw [hdata]; decide +kernel)
  have hfailing : ¬Body.Exceeds 18 (nopPieces ++ [.failed "reset"]) := by
    rw [← Body.collect_eq_overLimit_iff]
    have hcollect : Body.collect 18 (nopPieces ++ [.failed "reset"])
        = .error (.failed "reset") := by decide +kernel
    rw [hcollect]
    simp
  have hbroken : ∃ message, Frame.failed message ∈ nopPieces ++ [.failed "reset"] :=
    ⟨"reset", by simp⟩
  have hwhole : Body.Clean [.data nopBody] := by simp [Body.Clean]
  have hstates : States (bytesOf "18") (Body.dataOf nopPieces).length :=
    ⟨[], "18".toList, rfl, .inl rfl, by decide, by rw [hdata]; decide +kernel⟩
  have hlarge := framings_agree readyHost (limitedTo 17) (submission [] nopPieces) ()
  have hfailed := framings_agree readyHost (limitedTo 18)
    (submission [] (nopPieces ++ [.failed "reset"])) ()
  have hread := framings_agree readyHost (limitedTo 18) (submission [] nopPieces) ()
  refine ⟨?_, ?_, ?_, ?_⟩
  · rw [((hlarge.1 rfl).1 hover).response]
  · rw [((hfailed.1 rfl).2.1 hfailing hbroken).response]
  · rw [← hdata]
    exact (hread.1 rfl).2.2 hfits clean_nopPieces
  · exact (hread.2 clean_nopPieces (submission [("content-length", bytesOf "18")] [.data nopBody])
      hwhole (by decide +kernel)).2 rfl (bytesOf "18") rfl hstates

end Validation

end AssemblyGate
