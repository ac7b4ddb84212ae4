import Mathlib.Data.List.Basic

/-!
# Framed streams

A sender writes frames to a stream.  A frame is an optional body and a trailer.  Bodies
and trailers are messages of the same type, and a body is never taken for a trailer.

A reader that has lost count of the messages can find its place again: a message that is
a trailer belongs to exactly one frame, and the message before it is the body of that
frame, if the frame has one (`stream_split`).
-/

namespace Framing

variable {α : Type}

/-- An optional body and a trailer. -/
structure Frame (α : Type) where
  body : Option α
  trailer : α

/-- The messages of a frame, in order. -/
def Frame.messages (f : Frame α) : List α := f.body.toList ++ [f.trailer]

/-- The messages of complete frames, and the body of the frame that is being written. -/
def stream (fs : List (Frame α)) (body : Option α) : List α :=
  fs.flatMap Frame.messages ++ body.toList

@[simp] theorem stream_nil (body : Option α) : stream [] body = body.toList := rfl

theorem stream_cons (f : Frame α) (fs : List (Frame α)) (body : Option α) :
    stream (f :: fs) body = f.body.toList ++ f.trailer :: stream fs body := by
  simp [stream, Frame.messages]

/-- Writing a body. -/
theorem stream_body (fs : List (Frame α)) (b : α) :
    stream fs (some b) = stream fs none ++ [b] := by
  simp [stream]

/-- Writing a trailer completes the frame. -/
theorem stream_trailer (fs : List (Frame α)) (body : Option α) (m : α) :
    stream (fs ++ [⟨body, m⟩]) none = stream fs body ++ [m] := by
  simp [stream, Frame.messages]

/-- A trailer in the stream ends one of the frames, and what is before it are the frames
before that one and its body. -/
theorem stream_split (IsTrailer : α → Prop) {body : Option α} {m : α} {post : List α}
    (hm : IsTrailer m) (hbody : ∀ b, body = some b → ¬ IsTrailer b) (fs : List (Frame α)) :
    ∀ {pre : List α}, (∀ f ∈ fs, ∀ b, f.body = some b → ¬ IsTrailer b) →
      stream fs body = pre ++ m :: post →
      ∃ l f r, fs = l ++ f :: r ∧ f.trailer = m ∧ pre = stream l f.body := by
  induction fs with
  | nil =>
      intro pre _ h
      cases body with
      | none => exact absurd h.symm (by simp)
      | some b =>
          have hmem : m ∈ [b] := by
            rw [show [b] = pre ++ m :: post from h]
            simp
          rw [List.mem_singleton] at hmem
          exact absurd (hmem ▸ hm) (hbody b rfl)
  | cons f fs ih =>
      intro pre hfs h
      have hrest := fun g hg => hfs g (List.mem_cons_of_mem f hg)
      rw [stream_cons] at h
      cases hf : f.body with
      | none =>
          rw [hf, Option.toList_none, List.nil_append] at h
          cases pre with
          | nil =>
              obtain ⟨hfm, -⟩ := List.cons.inj h
              exact ⟨[], f, fs, rfl, hfm, by rw [hf]; rfl⟩
          | cons x pre =>
              obtain ⟨rfl, htail⟩ := List.cons.inj h
              obtain ⟨l, g, r, rfl, hg, rfl⟩ := ih hrest htail
              exact ⟨f :: l, g, r, rfl, hg, by rw [stream_cons, hf]; rfl⟩
      | some b =>
          rw [hf] at h
          cases pre with
          | nil =>
              obtain ⟨rfl, -⟩ := List.cons.inj h
              exact absurd hm (hfs f List.mem_cons_self b hf)
          | cons x pre =>
              obtain ⟨rfl, htail⟩ := List.cons.inj h
              cases pre with
              | nil =>
                  obtain ⟨hfm, -⟩ := List.cons.inj htail
                  exact ⟨[], f, fs, rfl, hfm, by rw [hf]; rfl⟩
              | cons y pre =>
                  obtain ⟨rfl, hstream⟩ := List.cons.inj htail
                  obtain ⟨l, g, r, rfl, hg, rfl⟩ := ih hrest hstream
                  exact ⟨f :: l, g, r, rfl, hg, by rw [stream_cons, hf]; rfl⟩

end Framing
