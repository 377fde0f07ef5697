/-
A job on the line.

A chunk is cut into pieces, and nothing is lost or added by it. The pieces are
given to the terminal one by one until it refuses one; so what it has received
is always the beginning of the job, and all of it if no piece was refused, no
matter how the job was cut.
-/
import ReceiptPrinter.Bluetooth.Backend
import ReceiptPrinter.Bluetooth.Delivery
import ReceiptPrinter.Proofs.Record

namespace ReceiptPrinter.Bluetooth

variable {W τ : Type} {terminal : τ} {row more : List Bytes} {added next : List (Delivery τ)}
  {result result' : Except OsError Unit}

-- ============================================================== the pieces

/-- A chunk that fits is not cut. -/
theorem pieces_of_le {size : Nat} {chunk : Bytes} (h : chunk.length ≤ size) :
    pieces size chunk = [chunk] := by
  rw [pieces, if_pos (.inl h)]

theorem pieces_flatten (size : Nat) (chunk : Bytes) : (pieces size chunk).flatten = chunk := by
  fun_induction pieces size chunk with
  | case1 chunk hfits => exact List.append_nil chunk
  | case2 chunk hlong ih => rw [List.flatten_cons, ih, List.take_append_drop]

theorem length_le_of_mem_pieces {size : Nat} (hsize : 0 < size) (chunk : Bytes) :
    ∀ piece ∈ pieces size chunk, piece.length ≤ size := by
  fun_induction pieces size chunk with
  | case1 chunk hfits =>
    intro piece hpiece
    cases List.mem_singleton.mp hpiece
    omega
  | case2 chunk hlong ih =>
    intro piece hpiece
    rcases List.mem_cons.mp hpiece with rfl | hrest
    · exact List.length_take_le size chunk
    · exact ih piece hrest

-- ============================================================== the writing

/-- All that can come of giving pieces to a terminal. -/
inductive Delivers (terminal : τ) :
    List Bytes → List (Delivery τ) → Except OsError Unit → Prop where
  | nothing : Delivers terminal [] [] (.ok ())
  | taken {piece : Bytes} {rest : List Bytes} {added : List (Delivery τ)}
    {result : Except OsError Unit} (hrest : Delivers terminal rest added result) :
    Delivers terminal (piece :: rest) (.took terminal piece :: added) result
  | refused {piece : Bytes} {rest : List Bytes} {reason : OsError} :
    Delivers terminal (piece :: rest) [.wrote terminal piece (.error reason)] (.error reason)

/-- After one row another one is given. -/
theorem Delivers.append (h : Delivers terminal row added (.ok ()))
    (hmore : Delivers terminal more next result) :
    Delivers terminal (row ++ more) (added ++ next) result := by
  generalize hok : Except.ok () = outcome at h
  induction h with
  | nothing => exact hmore
  | taken hrest ih => exact .taken (ih hok)
  | refused => cases hok

/-- What would come after a refused piece is not given. -/
theorem Delivers.append_of_error {reason : OsError}
    (h : Delivers terminal row added (.error reason)) (more : List Bytes) :
    Delivers terminal (row ++ more) added (.error reason) := by
  generalize herror : Except.error reason = outcome at h ⊢
  induction h with
  | nothing => cases herror
  | taken hrest ih => exact .taken (ih herror)
  | refused => exact .refused

/-- Either all pieces were taken, or all before the first one that was not. -/
theorem Delivers.split (h : Delivers terminal row added result) :
    (result = .ok () ∧ added = row.map (.took terminal))
      ∨ ∃ before piece after reason, row = before ++ piece :: after
        ∧ added = before.map (.took terminal) ++ [.wrote terminal piece (.error reason)]
        ∧ result = .error reason := by
  induction h with
  | nothing => exact .inl ⟨rfl, rfl⟩
  | @taken first rest added result hrest ih =>
    rcases ih with ⟨hresult, hadded⟩ | ⟨before, piece, after, reason, hrow, hadded, hresult⟩
    · exact .inl ⟨hresult, by rw [hadded, List.map_cons]⟩
    · exact .inr ⟨first :: before, piece, after, reason, by rw [hrow, List.cons_append],
        by rw [hadded, List.map_cons, List.cons_append], hresult⟩
  | @refused piece rest reason => exact .inr ⟨[], piece, rest, reason, rfl, rfl, rfl⟩

-- ========================================================== what is received

theorem received_took (terminal : τ) (row : List Bytes) :
    received (row.map (.took terminal)) = row.flatten := by
  induction row with
  | nil => rfl
  | cons piece rest ih =>
    show piece ++ received (rest.map (.took terminal)) = piece ++ rest.flatten
    rw [ih]

theorem received_concat (transcript : List (Delivery τ)) {last : Delivery τ}
    (hlast : last.received = []) : received (transcript ++ [last]) = received transcript := by
  unfold received
  rw [List.flatMap_append, List.flatMap_singleton, hlast, List.append_nil]

/-- The pieces of a job hold its bytes. -/
theorem flatten_row (size : Nat) (chunks : List Bytes) :
    (chunks.flatMap (pieces size)).flatten = chunks.flatten := by
  induction chunks with
  | nil => rfl
  | cons chunk rest ih =>
    rw [List.flatMap_cons, List.flatten_append, pieces_flatten, ih, List.flatten_cons]

-- ============================================================== the channel

section

variable (h : Host (StateM W) τ)

theorem adds_write (terminal : τ) (piece : Bytes) :
    Adds id (h.transcribed.write terminal piece) (h.write terminal piece) fun added result =>
      added = [.wrote terminal piece result] :=
  adds_noting id (h.write terminal piece) _

theorem adds_deliver (terminal : τ) (delay : Nat) (row : List Bytes) :
    Adds id (writePieces h.transcribed terminal delay row) (writePieces h terminal delay row)
      (Delivers terminal row) := by
  induction row with
  | nil => exact .pure .nothing
  | cons piece rest ih =>
    refine (adds_write h terminal piece).bind fun added result hadded => ?_
    subst hadded
    cases result with
    | error reason => exact .pure .refused
    | ok _ =>
      have hrest : Adds id (writePieces h.transcribed terminal delay rest)
          (writePieces h terminal delay rest) fun added result =>
            Delivers terminal (piece :: rest) (.took terminal piece :: added) result :=
        ih.mono fun _ _ => .taken
      dsimp only
      split
      · exact hrest
      · refine (adds_aside id (h.pause delay)).bind fun added _ hadded => ?_
        subst hadded
        exact hrest

/-- Both ways of writing a chunk give its pieces to the terminal. -/
theorem adds_chunk (terminal : τ) (size delay : Nat) (chunk : Bytes) :
    Adds id (writeChunk h.transcribed terminal size delay chunk)
      (writeChunk h terminal size delay chunk) (Delivers terminal (pieces size chunk)) := by
  unfold writeChunk
  split
  · next hfits =>
    rw [pieces_of_le hfits]
    refine (adds_write h terminal chunk).mono fun added result hadded => ?_
    subst hadded
    cases result with
    | ok _ => exact .taken .nothing
    | error reason => exact .refused
  · exact adds_deliver h terminal delay _

variable (s : Settings) (channel : Channel τ)

theorem adds_chunks (chunks : List Bytes) :
    Adds id (writeChunks ((backend h.transcribed s).write channel) chunks)
      (writeChunks ((backend h s).write channel) chunks) fun added outcome =>
        ∃ result, Delivers channel.terminal (chunks.flatMap (pieces (pieceSize s))) added result
          ∧ outcome = OsError.outcome result := by
  induction chunks with
  | nil => exact .pure ⟨.ok (), .nothing, rfl⟩
  | cons chunk rest ih =>
    have hwrite : Adds id ((backend h.transcribed s).write channel chunk)
        ((backend h s).write channel chunk) fun added outcome =>
          ∃ result, Delivers channel.terminal (pieces (pieceSize s) chunk) added result
            ∧ outcome = OsError.outcome result := by
      refine (adds_chunk h channel.terminal (pieceSize s) s.bluetoothChunkDelayMs chunk).bind
        fun added result hadded => .pure ⟨result, ?_, rfl⟩
      rw [List.append_nil]
      exact hadded
    refine hwrite.bind fun added outcome hadded => ?_
    obtain ⟨result, hdelivers, rfl⟩ := hadded
    rw [List.flatMap_cons]
    cases result with
    | error reason =>
      refine .pure ⟨.error reason, ?_, rfl⟩
      rw [List.append_nil]
      exact hdelivers.append_of_error _
    | ok _ =>
      refine ih.mono fun next outcome hnext => ?_
      obtain ⟨result, hrest, rfl⟩ := hnext
      exact ⟨result, hdelivers.append hrest, rfl⟩

/-- A job is flushed once all its pieces were taken. -/
theorem adds_send (job : Stream) :
    Adds id ((backend h.transcribed s).send channel job) ((backend h s).send channel job)
      fun transcript outcome => ∃ added result,
        Delivers channel.terminal (job.chunks.flatMap (pieces (pieceSize s))) added result
          ∧ match result with
            | .ok _ => ∃ flushed, transcript = added ++ [.flushed channel.terminal flushed]
                ∧ outcome = OsError.outcome flushed
            | .error reason =>
              transcript = added ∧ outcome = .error (.ioFailure reason.message) := by
  refine (adds_chunks h s channel job.chunks).bind fun added outcome hadded => ?_
  obtain ⟨result, hdelivers, rfl⟩ := hadded
  cases result with
  | error reason => exact .pure ⟨added, .error reason, hdelivers, List.append_nil added, rfl⟩
  | ok _ =>
    refine (adds_noting id (h.flush channel.terminal) _).bind fun next flushed hnext => .pure ?_
    subst hnext
    exact ⟨added, .ok (), hdelivers, flushed, by rw [List.append_nil], rfl⟩

end

/-- A job is delivered byte for byte.

Whatever the most bytes are that may be written at once, a job comes to the
terminal in pieces of at most that many, and of at least one; every piece is part
of a single chunk, and the pieces of a chunk are the chunk. With all of them
taken, the job is flushed, and that decides how it ends. Where a piece is
refused, just those before it were taken, nothing is given to the terminal
after it, and the job ends with its failure. So the terminal receives the
beginning of the job and nothing else, and all of the job if nothing is refused:
the bytes on the line do not depend on how the job was cut. -/
theorem send_delivers (h : Host (StateM W) τ) (s : Settings) (channel : Channel τ) (job : Stream)
    (w : W) :
    let t := (backend h.transcribed s).send channel job (w, [])
    let row := job.chunks.flatMap (pieces (pieceSize s))
    (backend h s).send channel job w = (t.1, t.2.1)
      ∧ (∀ chunk ∈ job.chunks, (pieces (pieceSize s) chunk).flatten = chunk)
      ∧ (∀ piece ∈ row, piece.length ≤ max s.bluetoothChunkSize 1)
      ∧ ((∃ flushed, t.2.2 = row.map (.took channel.terminal) ++ [.flushed channel.terminal flushed]
            ∧ t.1 = OsError.outcome flushed)
          ∨ ∃ before piece after reason, row = before ++ piece :: after
            ∧ t.2.2 = before.map (.took channel.terminal)
                ++ [.wrote channel.terminal piece (.error reason)]
            ∧ t.1 = .error (.ioFailure reason.message))
      ∧ received t.2.2 <+: job.bytes
      ∧ ((∀ delivery ∈ t.2.2, delivery.isRefusal = false) → received t.2.2 = job.bytes) := by
  intro t row
  obtain ⟨hshows, added, result, hdelivers, hends⟩ := (adds_send h s channel job).anew w
  have hbytes : row.flatten = job.bytes := flatten_row (pieceSize s) job.chunks
  have hsize : 0 < pieceSize s := by
    unfold pieceSize
    omega
  have hpieces : ∀ piece ∈ row, piece.length ≤ max s.bluetoothChunkSize 1 := by
    intro piece hpiece
    obtain ⟨chunk, -, hchunk⟩ := List.mem_flatMap.mp hpiece
    exact length_le_of_mem_pieces hsize chunk piece hchunk
  refine ⟨hshows, fun chunk _ => pieces_flatten (pieceSize s) chunk, hpieces, ?_⟩
  rcases hdelivers.split with ⟨rfl, rfl⟩ | ⟨before, piece, after, reason, hrow, rfl, rfl⟩
  · obtain ⟨flushed, htranscript, houtcome⟩ := hends
    have hall : received t.2.2 = job.bytes := by
      rw [show t.2.2 = _ from htranscript, received_concat _ rfl, received_took]
      exact hbytes
    exact ⟨.inl ⟨flushed, htranscript, houtcome⟩, hall ▸ List.prefix_rfl, fun _ => hall⟩
  · obtain ⟨htranscript, houtcome⟩ := hends
    have hbegins : received t.2.2 = before.flatten := by
      rw [show t.2.2 = _ from htranscript, received_concat _ rfl, received_took]
    refine ⟨.inr ⟨before, piece, after, reason, hrow, htranscript, houtcome⟩, ?_, fun hnone => ?_⟩
    · rw [hbegins, ← hbytes, show row = _ from hrow, List.flatten_append]
      exact List.prefix_append _ _
    · have hrefused := hnone (.wrote channel.terminal piece (.error reason)) (by
        rw [show t.2.2 = _ from htranscript]
        simp)
      cases hrefused

end ReceiptPrinter.Bluetooth
