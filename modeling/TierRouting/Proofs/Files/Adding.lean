import TierRouting.Proofs.Files.Opening

/-! Adding bytes to one file leaves the rest of the tree: other files keep their contents, and all
ways through directories stay open. -/
namespace TierRouting.FileTree

variable {t u v : FileTree} {p q : Place} {content a b : ByteArray}

/-- There is a file at a place. -/
def HasFile (t : FileTree) (q : Place) : Prop := ∃ content, t.get? q = some (.file content)

theorem HasFile.get? (h : t.HasFile q) : t.get? q = some (.file (t.contentAt q)) := by
  obtain ⟨content, hfile⟩ := h
  rw [contentAt_of_get? hfile, hfile]

/-- Bytes have been added to one file. The other files are as they were, and every directory is
still there. -/
structure Adds (t u : FileTree) (p : Place) (bytes : ByteArray) : Prop where
  leads : Leads t u
  hasFile : ∀ q, t.HasFile q → u.HasFile q
  content : ∀ q, u.contentAt q = t.contentAt q ++ if q = p then bytes else .empty

theorem Adds.content_self (h : Adds t u p a) : u.contentAt p = t.contentAt p ++ a := by
  rw [h.content p, if_pos rfl]

theorem contentAt_set (hp : p ≠ []) (content : ByteArray) (q : Place) :
    (t.set p (.file content)).contentAt q = if q = p then content else t.contentAt q := by
  rw [contentAt, get?_set hp]
  split
  · next h =>
    split at h
    · next hq => rw [if_pos hq]; cases h; rfl
    · next hq => rw [if_neg hq, contentAt, h]
  · next h =>
    split at h
    · next hq => exact absurd rfl (h content)
    · next hq =>
      rw [if_neg hq, contentAt]
      split
      · next hfile => exact absurd hfile (h _)
      · rfl

theorem Adds.trans (h : Adds t u p a) (h' : Adds u v p b) : Adds t v p (a ++ b) where
  leads q hq := h'.leads q (h.leads q hq)
  hasFile q hq := h'.hasFile q (h.hasFile q hq)
  content q := by
    rw [h'.content q, h.content q, ByteArray.append_assoc]
    split
    · rfl
    · rw [ByteArray.append_empty]

theorem adds_of_grown (h : Grown t u) (p : Place) : Adds t u p .empty where
  leads := h.leads
  hasFile q := by
    rintro ⟨content, hfile⟩
    rcases h q with hsame | ⟨hnone, -⟩
    · exact ⟨content, hsame.trans hfile⟩
    · rw [hnone] at hfile
      contradiction
  content q := by rw [h.contentAt q, ite_self, ByteArray.append_empty]

theorem adds_refl (t : FileTree) (p : Place) : Adds t t p .empty := adds_of_grown (.refl t) p

theorem hasFile_set (hp : p ≠ []) (content : ByteArray) : (t.set p (.file content)).HasFile p :=
  ⟨content, by rw [get?_set hp, if_pos rfl]⟩

theorem adds_set (h : t.get? p ≠ some .directory) (bytes : ByteArray) :
    Adds t (t.set p (.file (t.contentAt p ++ bytes))) p bytes where
  leads := leads_set_file _ h
  hasFile q := by
    have hp := ne_root_of_get?_ne h
    rintro ⟨content, hfile⟩
    by_cases hq : q = p
    · subst hq
      exact hasFile_set hp _
    · exact ⟨content, by rw [get?_set hp, if_neg hq, hfile]⟩
  content q := by
    rw [contentAt_set (ne_root_of_get?_ne h)]
    split
    · next hq => rw [hq]
    · rw [ByteArray.append_empty]

theorem adds_append (h : t.HasFile p) (bytes : ByteArray) : Adds t (t.append p bytes) p bytes := by
  rw [append_eq_set h.get?]
  exact adds_set (by simp [h.get?]) bytes

/-- Opening a file adds nothing to it; it is there from then on. -/
theorem adds_openAppend {directory : Place} {path : String}
    (h : t.openAppend directory path = .ok (u, p)) : Adds t u p .empty ∧ u.HasFile p := by
  obtain ⟨-, -, ⟨hfile, rfl⟩ | ⟨hnone, rfl⟩⟩ := openAppend_cases h
  · exact ⟨adds_refl u p, hfile⟩
  · have hset := adds_set (t := t) (p := p) (by simp [hnone]) .empty
    have hempty : t.contentAt p ++ .empty = .empty := by simp [contentAt, hnone]
    rw [hempty] at hset
    exact ⟨hset, hasFile_set (ne_root_of_get?_eq_none hnone) .empty⟩

end TierRouting.FileTree
