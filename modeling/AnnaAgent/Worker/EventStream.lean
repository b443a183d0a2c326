/-
The server-sent events of a model response
(`readServerSentEvents` in `harness-service/src/omp-model-transport.ts`).

The body of the response comes in chunks of bytes.  The text decoder, the line that is not
ended yet and the data lines of the event that is not ended yet are kept from one chunk to
the next.  An aborted signal is left out.
-/

import AnnaAgent.Worker.ModelTransport

namespace AnnaAgent.Worker

open Foundation

/-- A streaming UTF-8 decoder between two bytes. -/
structure TextDecoder where
  bomSeen : Bool
  codePoint : Nat
  bytesSeen : Nat
  bytesNeeded : Nat
  lowerBoundary : Nat
  upperBoundary : Nat

namespace TextDecoder

def fresh (bomSeen : Bool) : TextDecoder :=
  { bomSeen, codePoint := 0, bytesSeen := 0, bytesNeeded := 0
    lowerBoundary := 0x80, upperBoundary := 0xBF }

def replacement : Char := Char.ofNat 0xFFFD

/-- The first character of a stream is dropped when it is the byte order mark. -/
def emit (decoder : TextDecoder) (c : Char) : TextDecoder × List Char :=
  (fresh true, if !decoder.bomSeen && c == Char.ofNat 0xFEFF then [] else [c])

def startByte (decoder : TextDecoder) (byte : Nat) : TextDecoder × List Char :=
  let lead (needed codePoint : Nat) :=
    { fresh decoder.bomSeen with bytesNeeded := needed, codePoint }
  if byte ≤ 0x7F then decoder.emit (Char.ofNat byte)
  else if 0xC2 ≤ byte ∧ byte ≤ 0xDF then (lead 1 (byte % 0x20), [])
  else if 0xE0 ≤ byte ∧ byte ≤ 0xEF then
    ({ lead 2 (byte % 0x10) with
        lowerBoundary := if byte = 0xE0 then 0xA0 else 0x80
        upperBoundary := if byte = 0xED then 0x9F else 0xBF }, [])
  else if 0xF0 ≤ byte ∧ byte ≤ 0xF4 then
    ({ lead 3 (byte % 0x08) with
        lowerBoundary := if byte = 0xF0 then 0x90 else 0x80
        upperBoundary := if byte = 0xF4 then 0x8F else 0xBF }, [])
  else decoder.emit replacement

def decodeByte (decoder : TextDecoder) (byte : Nat) : TextDecoder × List Char :=
  if decoder.bytesNeeded = 0 then decoder.startByte byte
  else if decoder.lowerBoundary ≤ byte ∧ byte ≤ decoder.upperBoundary then
    let codePoint := decoder.codePoint * 0x40 + byte % 0x40
    if decoder.bytesSeen + 1 = decoder.bytesNeeded then decoder.emit (Char.ofNat codePoint)
    else
      ({ decoder with
          codePoint
          bytesSeen := decoder.bytesSeen + 1
          lowerBoundary := 0x80
          upperBoundary := 0xBF }, [])
  else
    let (decoder, text) := decoder.emit replacement
    let (decoder, more) := decoder.startByte byte
    (decoder, text ++ more)

def decode (decoder : TextDecoder) : List Nat → TextDecoder × List Char
  | [] => (decoder, [])
  | byte :: rest =>
      let (decoder, text) := decoder.decodeByte byte
      let (decoder, more) := decoder.decode rest
      (decoder, text ++ more)

/-- `decode` at the end of the stream. -/
def flush (decoder : TextDecoder) : List Char :=
  if decoder.bytesNeeded = 0 then [] else (decoder.emit replacement).2

theorem decode_append (decoder : TextDecoder) (early late : List Nat) :
    decoder.decode (early ++ late) =
      (((decoder.decode early).1.decode late).1,
        (decoder.decode early).2 ++ ((decoder.decode early).1.decode late).2) := by
  induction early generalizing decoder with
  | nil => rfl
  | cons byte rest ih => simp [decode, ih]

end TextDecoder

inductive StreamError where
  | tooLarge
  | invalidJson
  | invalidObject (message : String)

inductive SseEvent where
  | done
  | payload (payload : JsonObject)

def jsSpaces : List Nat :=
  [0x09, 0x0A, 0x0B, 0x0C, 0x0D, 0x20, 0xA0, 0x1680, 0x2000, 0x2001, 0x2002, 0x2003, 0x2004, 0x2005,
    0x2006, 0x2007, 0x2008, 0x2009, 0x200A, 0x2028, 0x2029, 0x202F, 0x205F, 0x3000, 0xFEFF]

def isJsSpace (c : Char) : Bool := jsSpaces.contains c.toNat

def trimStart (text : List Char) : List Char := text.dropWhile isJsSpace

def trim (text : List Char) : List Char := (trimStart (trimStart text).reverse).reverse

/-- `replace(/\r$/, "")`. -/
def withoutReturn (line : List Char) : List Char :=
  if line.getLast? = some '\r' then line.dropLast else line

section Events

variable (number : List Char → Option JsonNumber)

def decodeSseData (lines : List (List Char)) : Except StreamError (Option SseEvent) :=
  if lines.isEmpty then .ok none
  else
    let value := trim (['\n'].intercalate lines)
    if value = "[DONE]".toList then .ok (some .done)
    else
      match Json.parse number (String.ofList value) with
      | none => .error .invalidJson
      | some value =>
          match object (some value) with
          | .error message => .error (.invalidObject message)
          | .ok payload => .ok (some (.payload payload))

/-- The data lines of the event that is not ended, and the payloads that were delivered. -/
structure SseProgress where
  dataLines : List (List Char)
  delivered : List JsonObject

/-- How the reader ended: the payloads before, and the error if one was thrown. -/
structure SseEnd where
  delivered : List JsonObject
  error : Option StreamError

def pushData (progress : SseProgress) (line : List Char) : SseProgress :=
  if "data:".toList.isPrefixOf line then
    { progress with dataLines := progress.dataLines ++ [trimStart (line.drop "data:".length)] }
  else progress

def takeLine (progress : SseProgress) (line : List Char) : Except SseEnd SseProgress :=
  if line.isEmpty then
    match decodeSseData number progress.dataLines with
    | .error error => .error { delivered := progress.delivered, error := some error }
    | .ok (some .done) => .error { delivered := progress.delivered, error := none }
    | .ok (some (.payload payload)) =>
        .ok { dataLines := [], delivered := progress.delivered ++ [payload] }
    | .ok none => .ok { progress with dataLines := [] }
  else .ok (pushData progress line)

/-- The lines of a buffer whose first characters, up to the next newline, have been looked at
already. -/
def takeLines (line : List Char) :
    List Char → SseProgress → Except SseEnd (List Char × SseProgress)
  | [], progress => .ok (line, progress)
  | c :: rest, progress =>
      if c = '\n' then
        match takeLine number progress (withoutReturn line) with
        | .error ended => .error ended
        | .ok progress => takeLines [] rest progress
      else takeLines (line ++ [c]) rest progress

structure SseReader where
  decoder : TextDecoder
  buffer : List Char
  size : Nat
  progress : SseProgress

def SseReader.start : SseReader :=
  { decoder := .fresh false
    buffer := []
    size := 0
    progress := { dataLines := [], delivered := [] } }

def maxProviderResponseBytes : Nat := 1024 * 1024

def readChunk (limit : Nat) (reader : SseReader) (chunk : List Nat) : Except SseEnd SseReader :=
  let size := reader.size + chunk.length
  if limit < size then
    .error { delivered := reader.progress.delivered, error := some .tooLarge }
  else
    let (decoder, text) := reader.decoder.decode chunk
    match takeLines number [] (reader.buffer ++ text) reader.progress with
    | .error ended => .error ended
    | .ok (buffer, progress) => .ok { decoder, buffer, size, progress }

/-- What is left when the body ends. -/
def finish (reader : SseReader) : SseEnd :=
  let buffer := reader.buffer ++ reader.decoder.flush
  let progress :=
    if buffer.isEmpty then reader.progress else pushData reader.progress (withoutReturn buffer)
  match decodeSseData number progress.dataLines with
  | .error error => { delivered := progress.delivered, error := some error }
  | .ok (some (.payload payload)) =>
      { delivered := progress.delivered ++ [payload], error := none }
  | .ok _ => { delivered := progress.delivered, error := none }

def readFrom (limit : Nat) (reader : SseReader) : List (List Nat) → SseEnd
  | [] => finish number reader
  | chunk :: rest =>
      match readChunk number limit reader chunk with
      | .error ended => ended
      | .ok reader => readFrom limit reader rest

/-- The payloads that are delivered from the chunks of a body, and how the reading ends. -/
def readServerSentEvents (chunks : List (List Nat)) : SseEnd :=
  readFrom number maxProviderResponseBytes .start chunks

/-! ### Independence of the chunks -/

theorem takeLines_append (line early late : List Char) (progress : SseProgress) :
    takeLines number line (early ++ late) progress =
      (takeLines number line early progress).bind fun taken =>
        takeLines number taken.1 late taken.2 := by
  induction early generalizing line progress with
  | nil => rfl
  | cons c rest ih =>
    rw [List.cons_append, takeLines, takeLines]
    split
    · cases takeLine number progress (withoutReturn line) with
      | error ended => rfl
      | ok progress => exact ih [] progress
    · exact ih (line ++ [c]) progress

theorem takeLines_unended {line : List Char} (unended : '\n' ∉ line) (front : List Char)
    (progress : SseProgress) :
    takeLines number front line progress = .ok (front ++ line, progress) := by
  induction line generalizing front with
  | nil => rw [List.append_nil]; rfl
  | cons c rest ih =>
    rw [List.mem_cons, not_or] at unended
    rw [takeLines, if_neg (Ne.symm unended.1), ih unended.2, List.append_assoc]
    rfl

theorem takeLines_rest {line early : List Char} {progress : SseProgress}
    {taken : List Char × SseProgress} (unended : '\n' ∉ line)
    (took : takeLines number line early progress = .ok taken) : '\n' ∉ taken.1 := by
  induction early generalizing line progress with
  | nil => cases took; exact unended
  | cons c rest ih =>
    rw [takeLines] at took
    split at took
    · split at took
      · cases took
      · exact ih (List.not_mem_nil) took
    · rename_i other
      refine ih ?_ took
      simp [unended, Ne.symm other]

variable {limit : Nat} {reader : SseReader}

/-- What a chunk does when it is not too large. -/
theorem readChunk_within {chunk : List Nat} (within : reader.size + chunk.length ≤ limit) :
    readChunk number limit reader chunk =
      (takeLines number [] (reader.buffer ++ (reader.decoder.decode chunk).2)
          reader.progress).map fun taken =>
        { decoder := (reader.decoder.decode chunk).1
          buffer := taken.1
          size := reader.size + chunk.length
          progress := taken.2 } := by
  unfold readChunk
  rw [if_neg (by omega)]
  rcases reader.decoder.decode chunk with ⟨decoder, text⟩
  cases took : takeLines number [] (reader.buffer ++ text) reader.progress <;>
    simp [took, Except.map]

theorem readChunk_append {early late : List Nat}
    (within : reader.size + (early ++ late).length ≤ limit) :
    readChunk number limit reader (early ++ late) =
      (readChunk number limit reader early).bind fun reader =>
        readChunk number limit reader late := by
  rw [List.length_append] at within
  rw [readChunk_within number (by rw [List.length_append]; exact within),
    readChunk_within number (by omega), TextDecoder.decode_append, ← List.append_assoc,
    takeLines_append]
  cases took : takeLines number [] (reader.buffer ++ (reader.decoder.decode early).2)
      reader.progress with
  | error ended => rfl
  | ok taken =>
    have unended : '\n' ∉ taken.1 := takeLines_rest number List.not_mem_nil took
    change Except.map _ (takeLines number taken.1 _ taken.2) = readChunk number limit _ late
    rw [readChunk_within number (by change _ + early.length + _ ≤ _; omega), takeLines_append,
      takeLines_unended number unended]
    change _ = Except.map _ (takeLines number taken.1 _ taken.2)
    rw [List.length_append, Nat.add_assoc]

theorem readChunk_unended {after : SseReader} {chunk : List Nat}
    (read : readChunk number limit reader chunk = .ok after) :
    '\n' ∉ after.buffer ∧ after.size = reader.size + chunk.length := by
  unfold readChunk at read
  dsimp only at read
  split at read
  · cases read
  · split at read
    · cases read
    · rename_i took
      cases read
      exact ⟨takeLines_rest number List.not_mem_nil took, rfl⟩

/-- Chunks that are not too large together are read as one. -/
theorem readFrom_flatten (chunks : List (List Nat)) (unended : '\n' ∉ reader.buffer)
    (within : reader.size + chunks.flatten.length ≤ limit) :
    readFrom number limit reader chunks = readFrom number limit reader [chunks.flatten] := by
  induction chunks generalizing reader with
  | nil =>
    have same : readChunk number limit reader [] = .ok reader := by
      rw [readChunk_within number (by simpa using within)]
      simp [TextDecoder.decode, takeLines_unended number unended, Except.map]
    simp [readFrom, same]
  | cons chunk rest ih =>
    rw [List.flatten_cons] at within ⊢
    rw [readFrom, readFrom, readChunk_append number within]
    cases read : readChunk number limit reader chunk with
    | error ended => rfl
    | ok after =>
      rcases readChunk_unended number read with ⟨unended, size⟩
      rw [List.length_append] at within
      exact ih unended (by omega)

theorem readFrom_mono {greater : Nat} (grows : limit ≤ greater) (chunks : List (List Nat))
    (stops : (readFrom number limit reader chunks).error ≠ some .tooLarge) :
    readFrom number greater reader chunks = readFrom number limit reader chunks := by
  induction chunks generalizing reader with
  | nil => rfl
  | cons chunk rest ih =>
    by_cases within : reader.size + chunk.length ≤ limit
    · have same : readChunk number greater reader chunk = readChunk number limit reader chunk := by
        rw [readChunk_within number within, readChunk_within number (within.trans grows)]
      rw [readFrom] at stops ⊢
      rw [readFrom, same]
      cases read : readChunk number limit reader chunk with
      | error ended => rfl
      | ok after =>
        rw [read] at stops
        exact ih stops
    · have stopped : readChunk number limit reader chunk =
          .error { delivered := reader.progress.delivered, error := some .tooLarge } := by
        unfold readChunk
        rw [if_pos (by omega)]
      rw [readFrom, stopped] at stops
      exact absurd rfl stops

/-- Two ways of cutting a body give the same payloads and the same end, when the body is within
the limit or neither reading is stopped by it. -/
theorem events_independent_of_chunks {chunks others : List (List Nat)}
    (same : chunks.flatten = others.flatten)
    (within : chunks.flatten.length ≤ maxProviderResponseBytes ∨
      (readServerSentEvents number chunks).error ≠ some .tooLarge ∧
        (readServerSentEvents number others).error ≠ some .tooLarge) :
    readServerSentEvents number chunks = readServerSentEvents number others := by
  have unended : '\n' ∉ SseReader.start.buffer := List.not_mem_nil
  have agree (limit : Nat) (fits : chunks.flatten.length ≤ limit) :
      readFrom number limit .start chunks = readFrom number limit .start others := by
    have first : SseReader.start.size + chunks.flatten.length ≤ limit := by
      change 0 + _ ≤ _
      omega
    rw [readFrom_flatten number chunks unended first, same,
      ← readFrom_flatten number others unended (same ▸ first)]
  rcases within with within | ⟨fits, otherFits⟩
  · exact agree _ within
  · have grows := Nat.le_max_left maxProviderResponseBytes chunks.flatten.length
    unfold readServerSentEvents at fits otherFits ⊢
    rw [← readFrom_mono number grows chunks fits, ← readFrom_mono number grows others otherFits]
    exact agree _ (Nat.le_max_right _ _)

end Events

/-- A payload whose two-byte character and whose line end are cut apart. -/
theorem events_independent_of_cut :
    readServerSentEvents (fun _ => none)
        [[0x64, 0x61, 0x74, 0x61, 0x3A, 0x22, 0xC3], [0xA9, 0x22, 0x0D], [0x0A, 0x0A]] =
      readServerSentEvents (fun _ => none)
        [[0x64, 0x61, 0x74, 0x61, 0x3A, 0x22, 0xC3, 0xA9, 0x22, 0x0D, 0x0A, 0x0A]] :=
  events_independent_of_chunks _ rfl (Or.inl (by decide))

/-- `data:[DONE]` and the end of its event. -/
def doneBytes : List Nat :=
  [0x64, 0x61, 0x74, 0x61, 0x3A, 0x5B, 0x44, 0x4F, 0x4E, 0x45, 0x5D, 0x0A, 0x0A]

theorem doneBytes_end (rest : List Nat) :
    readServerSentEvents (fun _ => none) [doneBytes, rest] = { delivered := [], error := none } :=
  rfl

/-- What follows the end of the events counts only when it comes in the same chunk. -/
theorem late_bytes_refuse_stream :
    ¬ ∀ chunks others : List (List Nat), chunks.flatten = others.flatten →
      readServerSentEvents (fun _ => none) chunks =
        readServerSentEvents (fun _ => none) others := by
  intro independent
  generalize isLong : List.replicate maxProviderResponseBytes 0x0A = long
  have long_length : maxProviderResponseBytes < (doneBytes ++ long).length := by
    rw [← isLong, List.length_append, List.length_replicate]
    exact Nat.lt_add_of_pos_left (by decide)
  have same := independent [doneBytes, long] [doneBytes ++ long] (by simp)
  rw [doneBytes_end, readServerSentEvents, readFrom, readChunk,
    if_pos (long_length.trans_le (Nat.le_add_left _ _))] at same
  cases same

end AnnaAgent.Worker
