import ResponsiveImages.Live.Synchronizer
import ResponsiveImages.Proofs.BuiltDocument
import ResponsiveImages.Proofs.DocumentOrder

/-!
# What Keeps a Node

Clearing in rounds leaves what is held, and what is held by that, and so on. The
reason why a node is left is a way down to it through lists (`Document.Lists`), and
this way starts at a node that is held from outside or at one that is on a circle
(`Document.keeps_iff`). Neither the number of rounds nor the number of nodes has a part
in this.

One direction is an induction on the rounds: what is on such a way outlasts them all,
since it is held or the node before it outlasts one round less. For the other one,
look at a node that is left. Going up from it through nodes that were left a round
earlier, one comes to a node that is held from outside, or through more nodes than there
are. Then one of them is met twice, and it is above itself.

It follows that what has gone does not come back. A handle is kept only of a node that
is there, and a node that is taken out of a list, or not held any more, takes others with
it and never saves one (`Session.alive_of_alive_keep` and the lemmas after it). Where links
and lists agree, an element that is taken out of its list is there only for those who keep
a handle of it (`Session.alive_detached_iff`).

## Main definitions

* `Document.Lists`: A node lists another.

## Theorems

* `Document.outlasts_of_way`: What is on a way from a holder outlasts all rounds.
* `Document.exists_above_of_outlasts`: The nodes above a node that is left.
* `Document.keeps_iff`: Why a node is left.
* `Document.keeps_of_keeps`: With fewer holds no more is kept.
* `Document.keeps_of_contains`: A document keeps all its nodes.
* `Session.alive_iff`: When a node is still there in a session.
* `Session.alive_of_alive_keep`, `Session.alive_of_alive_letGo`,
  `Session.alive_of_alive_detach`, `Session.alive_of_alive_drop`: What has gone does not
  come back.
* `Session.alive_detached_iff`: An element that has been taken out of a list.
-/

namespace ResponsiveImages

open Relation

namespace Document

variable {d d' : Document} {held : List NodeId}

/-- Whether a node lists another among its children. -/
def Lists (d : Document) (p i : NodeId) : Prop :=
  i ∈ d.children p

theorem Lists.lt_size {p i : NodeId} (h : d.Lists p i) : p < d.nodes.size := by
  by_contra hsize
  rw [Lists, children_of_size_le (Nat.le_of_not_lt hsize)] at h
  exact absurd h List.not_mem_nil

theorem mem_listers {p i : NodeId} : p ∈ d.listers i ↔ d.Lists p i := by
  rw [listers, List.mem_filter, List.mem_range, List.contains_iff_mem]
  exact ⟨And.right, fun h => ⟨h.lt_size, h⟩⟩

/-- A node is left after one more round if it is held, or listed by a node that was
    left before. -/
theorem outlasts_succ_iff {rounds : Nat} {i : NodeId} :
    d.outlasts held (rounds + 1) i = true
      ↔ i ∈ held ∨ ∃ p, d.Lists p i ∧ d.outlasts held rounds p = true := by
  rw [outlasts, Bool.or_eq_true, List.contains_iff_mem, List.any_eq_true]
  simp only [mem_listers]

/-- What is reached from a node that is held, or from a node that is above itself, is
    left after any number of rounds. -/
theorem outlasts_of_way {h : NodeId} (hh : h ∈ held ∨ TransGen d.Lists h h) (rounds : Nat) :
    ∀ i, ReflTransGen d.Lists h i → d.outlasts held rounds i = true := by
  induction rounds with
  | zero => exact fun _ _ => rfl
  | succ rounds ih =>
      -- The node before a node on the way outlasts one round less.
      have hlast : ∀ i, TransGen d.Lists h i → d.outlasts held (rounds + 1) i = true := by
        intro i hway
        rcases TransGen.tail'_iff.mp hway with ⟨p, hp, hlists⟩
        exact outlasts_succ_iff.mpr (Or.inr ⟨p, hlists, ih p hp⟩)
      intro i hway
      rcases reflTransGen_iff_eq_or_transGen.mp hway with heq | hbelow
      · rw [heq]
        rcases hh with hheld | hcircle
        · exact outlasts_succ_iff.mpr (Or.inl hheld)
        · exact hlast h hcircle
      · exact hlast i hbelow

/-- Above a node that is left after some rounds there is a node that is held, or else a
    way up through as many nodes. -/
theorem exists_above_of_outlasts (rounds : Nat) :
    ∀ i, d.outlasts held rounds i = true →
      (∃ h ∈ held, ReflTransGen d.Lists h i)
        ∨ ∃ above : List NodeId, above.length = rounds ∧ (∀ p ∈ above, p < d.nodes.size)
          ∧ (i :: above).Pairwise fun low high => TransGen d.Lists high low := by
  induction rounds with
  | zero =>
      intro i _
      exact Or.inr ⟨[], rfl, fun p hp => absurd hp List.not_mem_nil, List.pairwise_singleton _ i⟩
  | succ rounds ih =>
      intro i hi
      -- The node is held, or it is listed by one that was left a round earlier.
      rcases outlasts_succ_iff.mp hi with hheld | ⟨p, hlists, hp⟩
      · exact Or.inl ⟨i, hheld, ReflTransGen.refl⟩
      · rcases ih p hp with ⟨h, hheld, hway⟩ | ⟨above, hlength, hbound, hpairs⟩
        · exact Or.inl ⟨h, hheld, hway.tail hlists⟩
        · refine Or.inr ⟨p :: above, by rw [List.length_cons, hlength], ?_, ?_⟩
          · exact List.forall_mem_cons.mpr ⟨hlists.lt_size, hbound⟩
          · refine List.pairwise_cons.mpr ⟨?_, hpairs⟩
            -- All of them are above the node that is listed.
            refine List.forall_mem_cons.mpr ⟨TransGen.single hlists, fun high hhigh => ?_⟩
            exact (List.rel_of_pairwise_cons hpairs hhigh).tail hlists

/-- A node is still there exactly if it is reached through lists from a node that is
    held from outside, or from one that is above itself. -/
theorem keeps_iff {i : NodeId} :
    d.keeps held i = true
      ↔ ∃ h, (h ∈ held ∨ TransGen d.Lists h h) ∧ ReflTransGen d.Lists h i := by
  constructor
  · intro hkeeps
    rcases exists_above_of_outlasts _ i hkeeps with
      ⟨h, hheld, hway⟩ | ⟨above, hlength, hbound, hpairs⟩
    · exact ⟨h, Or.inl hheld, hway⟩
    · by_contra hnone
      -- If nothing above is above itself, the nodes above are all different.
      have hnodup : above.Nodup := by
        refine (List.Pairwise.of_cons hpairs).imp_of_mem fun {low high} hlow _ habove heq => ?_
        rw [← heq] at habove
        exact hnone ⟨low, Or.inr habove, (List.rel_of_pairwise_cons hpairs hlow).to_reflTransGen⟩
      -- There are more of them than there are nodes.
      have hle := length_le_of_nodup hnodup hbound
      omega
  · rintro ⟨h, hh, hway⟩
    exact outlasts_of_way hh _ i hway

/-- What is kept keeps what is reached from it. -/
theorem keeps_of_way {p i : NodeId} (hp : d.keeps held p = true)
    (hway : ReflTransGen d.Lists p i) : d.keeps held i = true := by
  rcases keeps_iff.mp hp with ⟨h, hh, habove⟩
  exact keeps_iff.mpr ⟨h, hh, habove.trans hway⟩

/-- Where only what was kept is held from outside, and no list has a node that it did not
    have, nothing is kept that was not kept before. -/
theorem keeps_of_keeps {held' : List NodeId} (hheld : ∀ h ∈ held', d.keeps held h = true)
    (hlists : ∀ p i, d'.Lists p i → d.Lists p i) {i : NodeId} (hi : d'.keeps held' i = true) :
    d.keeps held i = true := by
  rcases keeps_iff.mp hi with ⟨h, hh, hway⟩
  -- The way was there before, so what matters is where it starts.
  have hbefore : ReflTransGen d.Lists h i := ReflTransGen.mono hlists _ _ hway
  rcases hh with hh | hcircle
  · exact keeps_of_way (hheld h hh) hbefore
  · exact keeps_iff.mpr ⟨h, Or.inr (TransGen.mono hlists _ _ hcircle), hbefore⟩

/-- Who keeps a node is a matter of the lists. -/
theorem keeps_congr (hchildren : ∀ i, d'.children i = d.children i) (i : NodeId) :
    d'.keeps held i = d.keeps held i := by
  have hlists : d'.Lists = d.Lists := by
    funext p j
    rw [Lists, Lists, hchildren]
  rw [Bool.eq_iff_iff, keeps_iff, keeps_iff, hlists]

/-- What a walk meets is reached from where it starts. -/
theorem reached_of_mem_walk (depth : Nat) :
    ∀ i j, j ∈ d.walk depth i → ReflTransGen d.Lists i j := by
  induction depth with
  | zero => exact fun _ _ h => absurd h List.not_mem_nil
  | succ depth ih =>
      intro i j h
      rw [walk] at h
      rcases List.mem_cons.mp h with hself | hbelow
      · rw [hself]
      · rcases List.mem_flatMap.mp hbelow with ⟨c, hc, hj⟩
        exact (ih c j hj).head hc

/-- A document whose root is held keeps all its nodes. -/
theorem keeps_of_contains (hroot : root ∈ held) {i : NodeId} (h : d.contains i = true) :
    d.keeps held i = true := by
  rw [contains, List.contains_iff_mem] at h
  exact keeps_iff.mpr ⟨root, Or.inl hroot, reached_of_mem_walk _ root i h⟩

/-- A node that is taken out of a list is put into no other. -/
theorem lists_of_detach? {i : NodeId} (h : d.detach? i = some d') {p j : NodeId}
    (hlists : d'.Lists p j) : d.Lists p j := by
  rcases Option.map_eq_some_iff.mp h with ⟨q, _, heq⟩
  rw [Lists, ← heq, children_link, children_editChildren] at hlists
  split at hlists
  · exact List.mem_of_mem_filter hlists
  · exact hlists

end Document

namespace Session

/-- A node is still there exactly if it is reached through lists from a node of which
    somebody keeps a handle, from the root of a document that has not been dropped, or
    from a node that is above itself. -/
theorem alive_iff {s : Session} {i : NodeId} :
    s.alive i = true
      ↔ ∃ h, (h ∈ s.holders ∨ TransGen s.document.Lists h h)
        ∧ ReflTransGen s.document.Lists h i :=
  Document.keeps_iff

theorem mem_holders {s : Session} {i : NodeId} :
    i ∈ s.holders ↔ (s.held = true ∧ i = Document.root) ∨ i ∈ s.kept := by
  rw [holders]
  by_cases hheld : s.held = true
  · rw [if_pos hheld, List.mem_cons, and_iff_right hheld]
  · rw [if_neg hheld, or_iff_right fun hboth => hheld hboth.1]

theorem alive_of_mem_holders {s : Session} {i : NodeId} (h : i ∈ s.holders) :
    s.alive i = true :=
  alive_iff.mpr ⟨i, Or.inl h, ReflTransGen.refl⟩

/-- A node is there for those who keep a handle of it. -/
theorem alive_of_kept {s : Session} {i : NodeId} (h : i ∈ s.kept) : s.alive i = true :=
  alive_of_mem_holders (mem_holders.mpr (Or.inr h))

/-- A node of a document that has not been dropped is still there. -/
theorem alive_of_contains {s : Session} (hheld : s.held = true) {i : NodeId}
    (h : s.document.contains i = true) : s.alive i = true :=
  Document.keeps_of_contains (mem_holders.mpr (Or.inl ⟨hheld, rfl⟩)) h

/-- Links that lead nowhere are no matter for what is there. -/
theorem alive_swept (s : Session) (i : NodeId) : s.swept.alive i = s.alive i :=
  Document.keeps_congr (Document.children_clearLinks s.document s.alive) i

/-! ### What has gone -/

variable {s s' : Session} {i j : NodeId}

theorem alive_of_alive_keep (h : (s.keep i).alive j = true) : s.alive j = true := by
  rw [keep] at h
  split at h
  · next hi =>
      refine Document.keeps_of_keeps (fun k hk => ?_) (fun _ _ hlists => hlists) h
      rcases mem_holders.mp hk with hroot | hkept
      · exact alive_of_mem_holders (mem_holders.mpr (Or.inl hroot))
      · -- The new handle is one of a node that is there.
        rcases List.mem_cons.mp hkept with hnew | hold
        · exact hnew ▸ hi
        · exact alive_of_kept hold
  · exact h

theorem alive_of_alive_letGo (h : (s.letGo i).alive j = true) : s.alive j = true := by
  rw [letGo, alive_swept] at h
  refine Document.keeps_of_keeps (fun k hk => ?_) (fun _ _ hlists => hlists) h
  rcases mem_holders.mp hk with hroot | hkept
  · exact alive_of_mem_holders (mem_holders.mpr (Or.inl hroot))
  · exact alive_of_kept (List.mem_of_mem_erase hkept)

theorem alive_of_alive_detach (hdetach : s.detach? i = some s') (h : s'.alive j = true) :
    s.alive j = true := by
  rw [detach?] at hdetach
  split at hdetach
  · rcases Option.map_eq_some_iff.mp hdetach with ⟨d, hd, heq⟩
    rw [← heq, alive_swept] at h
    exact Document.keeps_of_keeps (fun _ hk => alive_of_mem_holders hk)
      (fun _ _ hlists => Document.lists_of_detach? hd hlists) h
  · exact absurd hdetach (Option.some_ne_none s').symm

theorem alive_of_alive_drop (h : s.drop.alive j = true) : s.alive j = true := by
  rw [drop, alive_swept] at h
  refine Document.keeps_of_keeps (fun k hk => ?_) (fun _ _ hlists => hlists) h
  -- The root is not held any more, only the handles are left.
  rcases mem_holders.mp hk with ⟨hheld, _⟩ | hkept
  · exact absurd hheld Bool.false_ne_true
  · exact alive_of_kept hkept

/-- Where links and lists agree, an element that has been taken out of the list of its
    parent is there exactly if somebody keeps a handle of it. -/
theorem alive_detached_iff (hlinked : s.document.Linked) (hdetach : s.detach? i = some s') :
    s'.alive i = true ↔ i ∈ s.holders := by
  rw [detach?] at hdetach
  split at hdetach
  · rcases Option.map_eq_some_iff.mp hdetach with ⟨d, hd, heq⟩
    -- No list has the element any more.
    have hnone : ∀ p, ¬ d.Lists p i := by
      rcases Option.map_eq_some_iff.mp hd with ⟨q, hq, hdocument⟩
      intro p hp
      rw [← hdocument] at hp
      have hmoved := (Document.relinked_detach hlinked hq).moved_mem i (List.mem_singleton_self i) p
      exact Option.some_ne_none p (hmoved.mp hp).symm
    rw [← heq, alive_swept]
    constructor
    · intro halive
      rcases alive_iff.mp halive with ⟨h, hh, hway⟩
      rcases ReflTransGen.cases_tail hway with hself | ⟨p, _, hp⟩
      · rcases hh with hheld | hcircle
        · rw [hself]
          exact hheld
        · rcases TransGen.tail'_iff.mp hcircle with ⟨p, _, hp⟩
          exact absurd (hself ▸ hp) (hnone p)
      · exact absurd hp (hnone p)
    · exact fun hheld => alive_iff.mpr ⟨i, Or.inl hheld, ReflTransGen.refl⟩
  · exact absurd hdetach (Option.some_ne_none s').symm

end Session

end ResponsiveImages
