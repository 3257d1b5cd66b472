import Dockermock.Lifecycle.Exclusive
import Dockermock.Lifecycle.Backpressure

/-!
The way of a name from `worker.send` into process_container, at the level of
bytes: the stream is received in chunks of any size, cut at newlines, decoded
and stripped, and the name goes unquoted into a URL.
-/

namespace Dockermock.Lifecycle

open Library

section Worker

/-- The loop over the lines in the buffer: what each call of process_container is given, and the
rest of the buffer unless decode has raised. -/
def processLines (http : Http) (buffer : List UInt8) : List (Option String) × Option (List UInt8) :=
  match _found : cut newline buffer with
  | none => ([], some buffer)
  | some (line, rest) =>
      match decode line with
      | none => ([], none)
      | some msg =>
          let later := processLines http rest
          (http.get (strip msg) :: later.1, later.2)
  termination_by buffer.length
  decreasing_by exact cut_length _found

/-- `buffer += data` for each chunk, followed by the loop. -/
def receiveAll (http : Http) : Option (List UInt8) → List (List UInt8) → List (Option String)
  | none, _ | some _, [] => []
  | some buffer, data :: chunks =>
      let processed := processLines http (buffer ++ data)
      processed.1 ++ receiveAll http processed.2 chunks

def workerCalls (http : Http) (chunks : List (List UInt8)) : List (Option String) :=
  receiveAll http (some []) chunks

def startMessages (names : List String) : List UInt8 := names.flatMap startMessage

/-- A start of the container leads to one call, for its own row, whatever else is started and
however the stream is cut into chunks. -/
def Carried (http : Http) (name : String) : Prop :=
  ∀ earlier later chunks, chunks.flatten = startMessages (earlier ++ name :: later) →
    workerCalls http chunks =
      workerCalls http [startMessages earlier] ++
        some name :: workerCalls http [startMessages later]

end Worker

section Chunks

variable (http : Http)

theorem processLines_free {buffer : List UInt8} (free : newline ∉ buffer) :
    processLines http buffer = ([], some buffer) := by
  rw [processLines]
  split
  · rfl
  · rename_i line rest found
    rw [cut_eq_none_iff.mpr free] at found
    cases found

theorem processLines_framed {line : List UInt8} (free : newline ∉ line) (rest : List UInt8) :
    processLines http (line ++ newline :: rest) =
      match decode line with
      | none => ([], none)
      | some msg =>
          (http.get (strip msg) :: (processLines http rest).1, (processLines http rest).2) := by
  rw [processLines]
  split
  · rename_i uncut
    rw [cut_framed free rest] at uncut
    cases uncut
  · rename_i front back found
    rw [cut_framed free rest] at found
    cases found
    rfl

theorem processLines_line {line : List UInt8} {msg : String} (free : newline ∉ line)
    (text : decode line = some msg) (rest : List UInt8) :
    processLines http (line ++ newline :: rest) =
      (http.get (strip msg) :: (processLines http rest).1, (processLines http rest).2) := by
  rw [processLines_framed http free, text]

theorem processLines_undecoded {line : List UInt8} (free : newline ∉ line)
    (raises : decode line = none) (rest : List UInt8) :
    processLines http (line ++ newline :: rest) = ([], none) := by
  rw [processLines_framed http free, raises]

theorem processLines_append (buffer more : List UInt8) :
    processLines http (buffer ++ more) =
      match (processLines http buffer).2 with
      | none => ((processLines http buffer).1, none)
      | some left =>
          ((processLines http buffer).1 ++ (processLines http (left ++ more)).1,
            (processLines http (left ++ more)).2) := by
  induction buffer using framed_induction newline with
  | free buffer unmarked =>
      rw [processLines_free http unmarked]
      rfl
  | line line rest unmarked ih =>
      rw [List.append_assoc, List.cons_append]
      cases text : decode line with
      | none =>
          rw [processLines_undecoded http unmarked text, processLines_undecoded http unmarked text]
      | some msg =>
          rw [processLines_line http unmarked text, processLines_line http unmarked text, ih]
          cases (processLines http rest).2 with
          | none => rfl
          | some left => rfl

theorem left_free {buffer left : List UInt8}
    (processed : (processLines http buffer).2 = some left) : newline ∉ left := by
  induction buffer using framed_induction newline with
  | free buffer unmarked =>
      rw [processLines_free http unmarked] at processed
      cases processed
      exact unmarked
  | line line rest unmarked ih =>
      cases text : decode line with
      | none =>
          rw [processLines_undecoded http unmarked text] at processed
          cases processed
      | some msg =>
          rw [processLines_line http unmarked text] at processed
          exact ih processed

/-- The sizes of the chunks make no difference. -/
theorem receiveAll_eq (chunks : List (List UInt8)) {buffer : List UInt8} (free : newline ∉ buffer) :
    receiveAll http (some buffer) chunks = (processLines http (buffer ++ chunks.flatten)).1 := by
  induction chunks generalizing buffer with
  | nil =>
      rw [List.flatten_nil, List.append_nil, processLines_free http free]
      rfl
  | cons data chunks ih =>
      rw [receiveAll, List.flatten_cons, ← List.append_assoc,
        processLines_append http (buffer ++ data)]
      cases processed : (processLines http (buffer ++ data)).2 with
      | none =>
          have stopped : receiveAll http none chunks = [] := by cases chunks <;> rfl
          simp only [stopped, List.append_nil]
      | some left => simp only [ih (left_free http processed)]

theorem workerCalls_eq (chunks : List (List UInt8)) :
    workerCalls http chunks = (processLines http chunks.flatten).1 := by
  rw [workerCalls, receiveAll_eq http chunks List.not_mem_nil, List.nil_append]

end Chunks

section Names

variable (http : Http)

def callsFor (name : String) : List (Option String) :=
  (splitLines name).map fun line => http.get (strip line)

theorem callsFor_startLines (name : String) (run : Nat) :
    (Server.startLines name run).map (fun message => http.get (strip message.line)) =
        callsFor http name := by
  simp [Server.startLines, callsFor]

theorem processLines_message (name : String) (rest : List UInt8) :
    processLines http (startMessage name ++ rest) =
      (callsFor http name ++ (processLines http rest).1, (processLines http rest).2) := by
  have mark : encode "\n" = [newline] := by decide
  -- line by line of the name; the newline at the end of the message closes the last one
  induction letters : name.toList using framed_induction '\n' generalizing name with
  | free chars inner =>
      subst letters
      have unmarked : newline ∉ encode name := by
        rw [newline_mem_encode]
        exact inner
      rw [startMessage, encode_append, mark, List.append_assoc, List.singleton_append,
        processLines_line http unmarked (decode_encode name), callsFor,
          splitLines_single name inner]
      rfl
  | line line others free ih =>
      have joined : name = String.ofList line ++ ("\n" ++ String.ofList others) := by
        apply String.toList_injective
        simp [letters]
      have unmarked : newline ∉ encode (String.ofList line) := by
        rw [newline_mem_encode, String.toList_ofList]
        exact free
      have bytes : startMessage name ++ rest =
          encode (String.ofList line) ++
              newline :: (startMessage (String.ofList others) ++ rest) := by
        rw [startMessage, joined, encode_append, encode_append, encode_append, startMessage,
          encode_append, mark]
        simp
      have calls : callsFor http name =
          http.get (strip (String.ofList line)) :: callsFor http (String.ofList others) := by
        rw [callsFor, splitLines, letters, List.splitOn_append_cons_self_of_not_mem free]
        simp [callsFor, splitLines]
      rw [bytes, processLines_line http unmarked (decode_encode _),
        ih _ String.toList_ofList, calls]
      rfl

theorem processLines_messages (names : List String) :
    processLines http (startMessages names) = (names.flatMap (callsFor http), some []) := by
  induction names with
  | nil => exact processLines_free http List.not_mem_nil
  | cons name rest ih =>
      rw [startMessages, List.flatMap_cons, processLines_message, ← startMessages, ih,
        List.flatMap_cons]

theorem workerCalls_messages {chunks : List (List UInt8)} {names : List String}
    (stream : chunks.flatten = startMessages names) :
    workerCalls http chunks = names.flatMap (callsFor http) := by
  rw [workerCalls_eq, stream, processLines_messages]

/-- A start is carried if and only if it leads to the one call for its own row. -/
theorem carried_iff_callsFor (name : String) :
    Carried http name ↔ callsFor http name = [some name] := by
  have alone : ∀ names, workerCalls http [startMessages names] = names.flatMap (callsFor http) :=
    fun names => workerCalls_messages http (by simp)
  constructor
  · intro carried
    have calls := carried [] [] [startMessages [name]] (by simp)
    rw [alone, alone, List.flatMap_singleton, List.flatMap_nil, List.nil_append] at calls
    exact calls
  · intro calls earlier later chunks stream
    rw [workerCalls_messages http stream, alone, alone, List.flatMap_append,
      List.flatMap_cons, calls, List.singleton_append]

end Names

section Stripped

theorem strip_sublist (text : String) : (strip text).toList.Sublist text.toList := by
  have front : (text.toList.dropWhile isSpace).Sublist text.toList := List.dropWhile_sublist isSpace
  have back :=
    (List.dropWhile_sublist isSpace (l := (text.toList.dropWhile isSpace).reverse)).reverse
  rw [List.reverse_reverse] at back
  rw [strip, String.toList_ofList]
  exact back.trans front

theorem strip_eq_of_length {text : String} (whole : text.length ≤ (strip text).length) :
    strip text = text :=
  String.toList_injective ((strip_sublist text).eq_of_length_le whole)

theorem single_of_callsFor {http : Http} {name : String}
    (calls : callsFor http name = [some name]) : '\n' ∉ name.toList := by
  intro inner
  rcases List.eq_append_cons_of_mem inner with ⟨line, others, whole, free⟩
  rw [callsFor, splitLines, whole, List.splitOn_append_cons_self_of_not_mem free] at calls
  simp [List.splitOn_ne_nil] at calls

end Stripped

/-- For every name: each start is carried, among any other starts and in any chunks, if and only
if the name has no newline and no surrounding white space and its URL reaches its own row. -/
theorem carried_iff (http : Http)
    (shortens : ∀ path target, http.get path = some target → target.length ≤ path.length)
    (name : String) : Carried http name ↔ Framed name ∧ http.get name = some name := by
  rw [carried_iff_callsFor]
  constructor
  · intro calls
    have single := single_of_callsFor calls
    rw [callsFor, splitLines_single name single, List.map_singleton, List.cons.injEq] at calls
    have routed := calls.1
    -- Neither strip nor the URL makes a name longer, so neither has changed it.
    have stripped := strip_eq_of_length (shortens _ _ routed)
    rw [stripped] at routed
    exact ⟨⟨stripped, single⟩, routed⟩
  · rintro ⟨⟨stripped, single⟩, routed⟩
    rw [callsFor, splitLines_single name single, List.map_singleton, stripped, routed]

section Example

theorem carried_web : Carried directHttp "web" ↔ Framed "web" ∧ directHttp.get "web" = some "web" :=
  carried_iff directHttp
    (fun _ _ reached => Nat.le_of_eq (congrArg String.length (Option.some.inj reached)).symm) "web"

/-- A name that begins with a blank: the worker asks for the row of another container. -/
theorem blank_name_not_carried :
    ¬ ∀ http : Http, (∀ path target, http.get path = some target → target.length ≤ path.length) →
      ∀ name, name ≠ "" → Carried http name := by
  intro claimed
  have carried := claimed directHttp (fun _ _ reached =>
    Nat.le_of_eq (congrArg String.length (Option.some.inj reached)).symm) " web" (by decide)
  rw [carried_iff_callsFor] at carried
  exact absurd carried (by decide)

end Example

end Dockermock.Lifecycle
