import NameScout.Store.Basic

namespace NameScout

/-- The states that a store may be in as long as it does not fail, and the tables that it
keeps in each of them. -/
structure StoreView (σ : Type) where
  Sound : σ → Prop
  tables : σ → Tables

namespace StoreView

variable {σ α β : Type}

/-- A computation does with a store what another one does with the tables that it keeps. -/
def Follows (v : StoreView σ) (e : Effect σ α) (m : Effect Tables α) : Prop :=
  ∀ s, v.Sound s → ∃ s', e.run s = ((m.run (v.tables s)).1, s') ∧ v.Sound s' ∧
    v.tables s' = (m.run (v.tables s)).2

theorem follows_pure (v : StoreView σ) (a : α) : v.Follows (pure a) (pure a) :=
  fun s hs => ⟨s, rfl, hs, rfl⟩

theorem follows_bind {v : StoreView σ} {e : Effect σ α} {m : Effect Tables α}
    {f : α → Effect σ β} {g : α → Effect Tables β} (he : v.Follows e m)
    (hf : ∀ a, v.Follows (f a) (g a)) : v.Follows (e >>= f) (m >>= g) := by
  intro s hs
  obtain ⟨s', hrun, hs', ht⟩ := he s hs
  rw [Effect.run_bind, Effect.run_bind, hrun]
  generalize m.run (v.tables s) = end_ at ht
  obtain ⟨o, t⟩ := end_
  subst ht
  cases o with
  | error x => exact ⟨s', rfl, hs', rfl⟩
  | ok a => exact hf a s' hs'

/-- Every operation succeeds on a sound state and does what it says to the tables. -/
structure Reliable (v : StoreView σ) [Store σ] : Prop where
  row? : ∀ e, v.Follows (Store.row? e) (Store.row? e)
  putRow : ∀ e row, v.Follows (Store.putRow e row) (Store.putRow e row)
  listRows : ∀ start, v.Follows (Store.listRows start) (Store.listRows start)
  eraseRow : ∀ e, v.Follows (Store.eraseRow e) (Store.eraseRow e)
  eraseRows : ∀ start, v.Follows (Store.eraseRows start) (Store.eraseRows start)
  live? : ∀ key now, v.Follows (Store.live? key now) (Store.live? key now)
  putEntry : ∀ e, v.Follows (Store.putEntry e) (Store.putEntry e)
  purge : ∀ now, v.Follows (Store.purge now) (Store.purge now)
  flush : v.Follows Store.flush Store.flush

def memory : StoreView Tables where
  Sound _ := True
  tables t := t

theorem follows_memory (e : Effect Tables α) : memory.Follows e e :=
  fun t _ => ⟨(e.run t).2, rfl, trivial, rfl⟩

theorem reliable_memory : memory.Reliable where
  row? _ := follows_memory _
  putRow _ _ := follows_memory _
  listRows _ := follows_memory _
  eraseRow _ := follows_memory _
  eraseRows _ := follows_memory _
  live? _ _ := follows_memory _
  putEntry _ := follows_memory _
  purge _ := follows_memory _
  flush := follows_memory _

end StoreView

end NameScout
