/-! Things that are written one after the other, each under a key of its own: bytes at addresses,
bits at their places in a byte. Where a write reaches its own key and no other, each key holds in
the end what was last written under it. -/
namespace SM83

variable {κ ν σ ω : Type} [DecidableEq κ]

/-- The value that was last written under a key, or the given one if there is none. -/
def lastUnder (key : κ) (writes : List (κ × ν)) (value : ν) : ν :=
  ((writes.filter fun write => write.1 = key).map Prod.snd).getLastD value

theorem lastUnder_cons (key : κ) (write : κ × ν) (rest : List (κ × ν)) (value : ν) :
    lastUnder key (write :: rest) value =
      lastUnder key rest (if write.1 = key then write.2 else value) := by
  unfold lastUnder
  by_cases same : write.1 = key
  · rw [List.filter_cons_of_pos (by simpa using same), List.map_cons, List.getLastD_cons,
      if_pos same]
  · rw [List.filter_cons_of_neg (by simpa using same), if_neg same]

/-- If each single operation writes one key, then after many of them each key reads as it was last
written, or as before. -/
theorem read_foldl (read : σ → κ → ν) {perform : σ → ω → σ} (written : ω → κ × ν)
    (single : ∀ state operation key, read (perform state operation) key =
      if (written operation).1 = key then (written operation).2 else read state key)
    (operations : List ω) (state : σ) (key : κ) :
    read (operations.foldl perform state) key =
      lastUnder key (operations.map written) (read state key) := by
  induction operations generalizing state with
  | nil => rfl
  | cons operation rest ih => rw [List.foldl_cons, ih, single, List.map_cons, lastUnder_cons]

end SM83
