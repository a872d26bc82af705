import AnalyticsQuery.Proofs.FilterText.Clauses

/-!
# The pieces of filter text

Filter text is split back into one piece for each clause of the filter.  The sites of
the clauses say how many negations stand in front of a piece and which separator stands
between two pieces, so that no name and no value can change how the text is divided.
-/

namespace AnalyticsQuery

open Fallible
open FilterText

namespace Filter

variable {clauses : Condition → List String}

/-! ## Negations -/

theorem negations_condition {leaf : Condition}
    (hcount : (clauses leaf).length = leaf.clauseCount) :
    (Chain.piecesIn ((condition leaf).chain clauses)).map Piece.negations =
      (condition leaf).sites.map (condition leaf).negationsAt := by
  have hsites : (condition leaf).sites.map (condition leaf).negationsAt =
      List.replicate leaf.clauseCount 0 := by
    cases leaf <;> rfl
  rw [chain, Chain.piecesIn_join, List.flatMap_map, List.map_flatMap, hsites, ← hcount]
  change (clauses leaf).flatMap (fun _ => [0]) = _
  rw [← List.map_eq_flatMap, List.map_const']

theorem negations_junction (operator : Junction) (children : List Filter)
    (hchildren : ∀ child ∈ children,
      (Chain.piecesIn (child.chain clauses)).map Piece.negations =
        child.sites.map child.negationsAt) :
    (Chain.piecesIn ((junction operator children).chain clauses)).map Piece.negations =
      (junction operator children).sites.map (junction operator children).negationsAt := by
  have hsites : (junction operator children).sites.map (junction operator children).negationsAt =
      children.flatMap fun child => child.sites.map child.negationsAt :=
    map_sitesFrom _ negationsAt fun offset child hchild rest _ => by
      have hbelow : (junction operator children).children[offset]? = some child := hchild
      rw [Nat.zero_add, negationsAt_cons hbelow, if_neg fun h => Bool.false_ne_true h.1,
        Nat.add_zero]
  calc
    (Chain.piecesIn ((junction operator children).chain clauses)).map Piece.negations =
        children.flatMap fun child =>
          (Chain.piecesIn (child.chain clauses)).map Piece.negations := by
      rw [chain_junction, Chain.piecesIn_join, flatMap_filterMap, List.map_flatMap]
      rfl
    _ = children.flatMap fun child => child.sites.map child.negationsAt :=
      List.flatMap_congr hchildren
    _ = (junction operator children).sites.map (junction operator children).negationsAt :=
      hsites.symm

theorem map_negations_negate (chain : Option (Chain Piece)) :
    (Chain.piecesIn (chain.map (Chain.mapHead Piece.negate))).map Piece.negations =
      ((Chain.piecesIn chain).map Piece.negations).modifyHead (· + 1) := by
  cases chain with
  | none => rfl
  | some chain => cases chain <;> rfl

/-- A negation counts at the first site below it and at no other. -/
theorem negationsAt_negation (child : Filter) (rest : List Nat) :
    (negation child).negationsAt (0 :: rest) = child.negationsAt rest +
      if child.sites.head? = some rest then 1 else 0 := by
  have hbelow : (negation child).children[0]? = some child := rfl
  have hhead : child.sites.head?.map (0 :: ·) = some (0 :: rest) ↔
      child.sites.head? = some rest := by
    cases child.sites.head? <;> simp
  rw [negationsAt_cons hbelow, sites, List.head?_map]
  simp only [hhead, isNegation, true_and]

theorem map_negationsAt_negation (child : Filter) :
    (negation child).sites.map (negation child).negationsAt =
      (child.sites.map child.negationsAt).modifyHead (· + 1) := by
  rw [sites, List.map_map]
  have hnodup := nodup_sites child
  cases hsites : child.sites with
  | nil => rfl
  | cons first others =>
      rw [hsites] at hnodup
      have hfirst : (negation child).negationsAt (0 :: first) = child.negationsAt first + 1 := by
        rw [negationsAt_negation, hsites, List.head?_cons, if_pos rfl]
      have hothers : ∀ rest ∈ others, ((negation child).negationsAt ∘ (0 :: ·)) rest =
          child.negationsAt rest := by
        intro rest hrest
        have hne : (first :: others).head? ≠ some rest := by
          intro hhead
          rw [Option.some.inj hhead] at hnodup
          exact (List.nodup_cons.1 hnodup).1 hrest
        rw [Function.comp_apply, negationsAt_negation, hsites, if_neg hne, Nat.add_zero]
      rw [List.map_cons, Function.comp_apply, hfirst, List.map_congr_left hothers,
        List.map_cons, List.modifyHead_cons]

/-- A negation adds to the first piece below it and to no other. -/
theorem negations_negation {child : Filter}
    (hchild : (Chain.piecesIn (child.chain clauses)).map Piece.negations =
      child.sites.map child.negationsAt) :
    (Chain.piecesIn ((negation child).chain clauses)).map Piece.negations =
      (negation child).sites.map (negation child).negationsAt := by
  rw [chain, map_negations_negate, hchild, map_negationsAt_negation]

/-- The pieces of a filter are negated as often as negations start at their sites. -/
theorem negations_chain {filter : Filter}
    (hcount : ∀ leaf ∈ filter.leaves, (clauses leaf).length = leaf.clauseCount) :
    (Chain.piecesIn (filter.chain clauses)).map Piece.negations =
      filter.sites.map filter.negationsAt := by
  induction filter using treeInduction with
  | condition leaf => exact negations_condition (hcount leaf (List.mem_singleton_self leaf))
  | junction operator children ih =>
      apply negations_junction
      intro child hchild
      apply ih child hchild
      intro leaf hleaf
      exact hcount leaf (mem_leaves_junction hchild hleaf)
  | negation child ih => exact negations_negation (ih hcount)

/-- A filter has a chain unless it has no site. -/
theorem chain_eq_none_iff {filter : Filter}
    (hcount : ∀ leaf ∈ filter.leaves, (clauses leaf).length = leaf.clauseCount) :
    filter.chain clauses = none ↔ filter.sites = [] := by
  have hnegations := congrArg List.length (negations_chain hcount)
  rw [List.length_map, List.length_map] at hnegations
  rw [← List.length_eq_zero_iff, ← hnegations, List.length_eq_zero_iff]
  cases filter.chain clauses with
  | none => exact iff_of_true rfl rfl
  | some chain => exact iff_of_false (Option.some_ne_none _) chain.pieces_ne_nil

/-! ## Separators -/

/-- Between two lists of sites stands what joins each site of one to each of the other. -/
theorem zipWith_tail_append {α β : Type} {f : α → α → β} {between : β} {left right : List α}
    (hleft : left ≠ []) (hright : right ≠ [])
    (hbetween : ∀ first ∈ left, ∀ second ∈ right, f first second = between) :
    List.zipWith f (left ++ right) (left ++ right).tail =
      List.zipWith f left left.tail ++ between :: List.zipWith f right right.tail := by
  induction left with
  | nil => exact absurd rfl hleft
  | cons first others ih =>
      cases others with
      | nil =>
          obtain ⟨second, rest, rfl⟩ := List.exists_cons_of_ne_nil hright
          have hcross := hbetween first List.mem_cons_self second List.mem_cons_self
          exact congrArg (· :: List.zipWith f (second :: rest) rest) hcross
      | cons next others =>
          have htail := ih (List.cons_ne_nil _ _) fun item hitem =>
            hbetween item (List.mem_cons_of_mem _ hitem)
          exact congrArg (f first next :: ·) htail

theorem zipWith_tail_map {α β γ : Type} (f : β → β → γ) (g : α → β) (items : List α) :
    List.zipWith f (items.map g) (items.map g).tail =
      List.zipWith (fun first second => f (g first) (g second)) items items.tail := by
  rw [← List.map_tail, List.zipWith_map]

theorem separators_condition {leaf : Condition}
    (hcount : (clauses leaf).length = leaf.clauseCount) :
    (Chain.junctionsIn ((condition leaf).chain clauses)).map some =
      List.zipWith (condition leaf).joinedBy (condition leaf).sites
        (condition leaf).sites.tail := by
  have hsingle : ∀ texts : List String, texts.length = 1 →
      Chain.junctionsIn (Chain.join .and (texts.map fun text => .single (Piece.plain text))) = [] := by
    intro texts hlength
    obtain ⟨text, rfl⟩ := List.length_eq_one_iff.1 hlength
    rfl
  cases leaf with
  | comparison operator field value => rw [chain, hsingle _ hcount]; rfl
  | textMatch operator field value caseSensitive => rw [chain, hsingle _ hcount]; rfl
  | segment id => rw [chain, hsingle _ hcount]; rfl
  | between field lower upper =>
      obtain ⟨lowerText, upperText, htexts⟩ := List.length_eq_two.1 hcount
      rw [chain, htexts]
      rfl

theorem filterMap_chain_eq_nil_iff {children : List Filter} (index : Nat)
    (hnone : ∀ child ∈ children, child.chain clauses = none ↔ child.sites = []) :
    children.filterMap (chain clauses) = [] ↔ sitesFrom index children = [] := by
  rw [List.filterMap_eq_nil_iff, sitesFrom_eq_nil_iff]
  exact forall₂_congr hnone

/-- The separators of children joined by one junction, if sites of the same child are
joined as in that child and all others by the junction. -/
theorem separators_join {operator : Junction} {children : List Filter} (index : Nat)
    {joined : List Nat → List Nat → Option Junction}
    (hsame : ∀ offset child, children[offset]? = some child → ∀ left right,
      joined ((index + offset) :: left) ((index + offset) :: right) = child.joinedBy left right)
    (hapart : ∀ first second, first ≠ second → ∀ left right,
      joined (first :: left) (second :: right) = some operator)
    (hnone : ∀ child ∈ children, child.chain clauses = none ↔ child.sites = [])
    (hchildren : ∀ child ∈ children, (Chain.junctionsIn (child.chain clauses)).map some =
      List.zipWith child.joinedBy child.sites child.sites.tail) :
    (Chain.junctionsIn (Chain.join operator (children.filterMap (chain clauses)))).map some =
      List.zipWith joined (sitesFrom index children) (sitesFrom index children).tail := by
  induction children generalizing index with
  | nil => rfl
  | cons child children ih =>
      have hothers := ih (index + 1)
        (fun offset other hother left right => by
          rw [Nat.add_assoc, Nat.add_comm 1]
          exact hsame (offset + 1) other hother left right)
        (fun other hother => hnone other (List.mem_cons_of_mem _ hother))
        (fun other hother => hchildren other (List.mem_cons_of_mem _ hother))
      have hfirst : List.zipWith joined (child.sites.map (index :: ·))
          (child.sites.map (index :: ·)).tail =
            (Chain.junctionsIn (child.chain clauses)).map some := by
        rw [zipWith_tail_map, hchildren child List.mem_cons_self]
        congr 1
        funext left right
        exact hsame 0 child rfl left right
      rw [sitesFrom, List.filterMap_cons]
      cases hchain : child.chain clauses with
      | none =>
          rw [(hnone child List.mem_cons_self).1 hchain, List.map_nil, List.nil_append]
          exact hothers
      | some chain =>
          have hsites : child.sites.map (index :: ·) ≠ [] := by
            rw [Ne, List.map_eq_nil_iff, ← hnone child List.mem_cons_self, hchain]
            exact Option.some_ne_none chain
          rw [hchain] at hfirst
          have hrest := filterMap_chain_eq_nil_iff (index + 1) fun other hother =>
            hnone other (List.mem_cons_of_mem _ hother)
          by_cases hempty : children.filterMap (Filter.chain clauses) = []
          · rw [hempty, hrest.1 hempty, List.append_nil, hfirst]
            rfl
          · have hcross : ∀ first ∈ child.sites.map (index :: ·),
                ∀ second ∈ sitesFrom (index + 1) children,
                  joined first second = some operator := by
              intro first hleft second hright
              obtain ⟨left, _, rfl⟩ := List.mem_map.1 hleft
              obtain ⟨offset, _, right, _, _, rfl⟩ := exists_of_mem_sitesFrom hright
              exact hapart _ _ (by omega) left right
            rw [Chain.junctionsIn_join_cons operator chain hempty, List.map_append,
              List.map_cons, hothers, zipWith_tail_append hsites (mt hrest.2 hempty) hcross, hfirst]
            rfl

/-- Two neighbours of a filter are joined as at the lowest common ancestor of their sites. -/
theorem separators_chain {filter : Filter}
    (hcount : ∀ leaf ∈ filter.leaves, (clauses leaf).length = leaf.clauseCount) :
    (Chain.junctionsIn (filter.chain clauses)).map some =
      List.zipWith filter.joinedBy filter.sites filter.sites.tail := by
  induction filter using treeInduction with
  | condition leaf => exact separators_condition (hcount leaf (List.mem_singleton_self leaf))
  | junction operator children ih =>
      have hchildren : ∀ child ∈ children, ∀ leaf ∈ child.leaves,
          (clauses leaf).length = leaf.clauseCount := by
        intro child hchild leaf hleaf
        exact hcount leaf (mem_leaves_junction hchild hleaf)
      rw [chain_junction, sites]
      apply separators_join
      · intro offset child hchild left right
        rw [Nat.zero_add]
        exact joinedBy_cons_self hchild left right
      · intro first second hne left right
        exact joinedBy_cons_of_ne _ hne left right
      · intro child hchild
        exact chain_eq_none_iff (hchildren child hchild)
      · intro child hchild
        exact ih child hchild (hchildren child hchild)
  | negation child ih =>
      have hjunctions : Chain.junctionsIn ((negation child).chain clauses) =
          Chain.junctionsIn (child.chain clauses) := by
        rw [chain]
        cases child.chain clauses with
        | none => rfl
        | some chain => exact Chain.junctions_mapHead Piece.negate chain
      rw [hjunctions, ih hcount, sites, zipWith_tail_map]
      rfl

end Filter

/-! ## Splitting the text of a filter -/

namespace Compiler

variable {compiler : Compiler} {filter : Filter} {text : String}

/-- No name and no value breaks out of its clause.  The text of a filter is split into one
piece for each clause of each leaf, in their order: the negations of which it is the first
clause, and the clause itself, from which unescaping recovers the text that was compiled.
The separators between the pieces are those of the lowest common ancestors. -/
theorem split_filterText (htext : compiler.filterText filter = .ok (some text))
    (hne : text ≠ "") :
    ∃ clauses, filter.leaves.mapM compiler.clauseTexts = .ok clauses ∧
      clauses.map List.length = filter.leaves.map Condition.clauseCount ∧
      filter.sites.length = clauses.flatten.length ∧
      filter.sites.Pairwise (· < ·) ∧
      filter.sites.map (fun site => filter.subfilter? site.dropLast) =
        filter.leaves.flatMap (fun leaf =>
          List.replicate leaf.clauseCount (some (.condition leaf))) ∧
      (split text.toList).pieces = List.zipWith
        (fun site clause => List.replicate (filter.negationsAt site) '!' ++
          escapeChars clauseCharacters clause.toList)
        filter.sites clauses.flatten ∧
      (∀ clause ∈ clauses.flatten,
        unescape (escapeChars clauseCharacters clause.toList) = clause.toList) ∧
      (split text.toList).junctions.map some =
        List.zipWith filter.joinedBy filter.sites filter.sites.tail := by
  obtain ⟨clauses, hclauses⟩ := exists_ok_mapM (exists_filterText_iff.1 ⟨_, htext⟩)
  obtain ⟨chain, hchain, rfl⟩ := exists_chain_of_filterText htext hne
  have hcount : ∀ leaf ∈ filter.leaves, (compiler.clausesOf leaf).length = leaf.clauseCount := by
    intro leaf hleaf
    obtain ⟨texts, htexts⟩ := exists_ok_of_mem hclauses hleaf
    rw [clausesOf_eq htexts, length_of_clauseTexts htexts]
  have hlengths : clauses.map List.length = filter.leaves.map Condition.clauseCount := by
    rw [← map_clausesOf hclauses, List.map_map]
    exact List.map_congr_left hcount
  have htexts := Filter.clauses_chain compiler.clausesOf filter
  have hnegations := Filter.negations_chain hcount
  have hseparators := Filter.separators_chain hcount
  rw [hchain] at htexts hnegations hseparators
  rw [List.flatMap_def, map_clausesOf hclauses] at htexts
  change chain.pieces.map Piece.clause = _ at htexts
  change chain.pieces.map Piece.negations = _ at hnegations
  have hsites : filter.sites.length = clauses.flatten.length :=
    calc
      filter.sites.length = (chain.pieces.map Piece.negations).length := by
        rw [hnegations, List.length_map]
      _ = (chain.pieces.map Piece.clause).length := by rw [List.length_map, List.length_map]
      _ = clauses.flatten.length := by rw [htexts]
  have hpieces : (split chain.write.toList).pieces = List.zipWith
      (fun site clause => List.replicate (filter.negationsAt site) '!' ++
        escapeChars clauseCharacters clause.toList) filter.sites clauses.flatten :=
    calc
      (split chain.write.toList).pieces = chain.pieces.map Piece.text := by
        rw [Chain.split_write, Chain.pieces_map]
      _ = List.zipWith (fun count clause => List.replicate count '!' ++
            escapeChars clauseCharacters clause.toList)
              (chain.pieces.map Piece.negations) (chain.pieces.map Piece.clause) := by
        rw [List.zipWith_map, List.zipWith_self]
        rfl
      _ = _ := by rw [hnegations, htexts, List.zipWith_map_left]
  have hjunctions : (split chain.write.toList).junctions.map some =
      List.zipWith filter.joinedBy filter.sites filter.sites.tail := by
    rw [Chain.split_write, Chain.junctions_map]
    exact hseparators
  exact ⟨clauses, hclauses, hlengths, hsites, filter.pairwise_sites, filter.subfilter?_sites,
    hpieces, fun clause _ => unescape_escapeChars clause.toList, hjunctions⟩

/-- Delimiters in a name, in a value and in a pattern, under a negation of several clauses. -/
theorem split_filterText_delimiters :
    let delimited : Filter := .junction .and
      [.negation (.junction .or
        [.condition (.comparison .equal (.plain (.literal "ga:a;b")) (.literal (.text "x,y") none)),
          .junction .and [],
          .condition (.between (.plain (.literal "ga:c")) (.literal (.int 1) none)
            (.literal (.int 2) none))]),
        .condition (.textMatch .endsWith (.plain (.literal "ga:d")) (.literal (.text "\\;") none)
          false)]
    bare.filterText delimited = .ok (some
      "!ga:a\\;b==x\\,y,ga:c>=1;ga:c<=2;ga:d=~(?i)\\\\\\\\\\;$") ∧
    delimited.sites = [[0, 0, 0, 0], [0, 0, 2, 0], [0, 0, 2, 1], [1, 0]] ∧
    ∃ clauses, delimited.leaves.mapM bare.clauseTexts = .ok clauses ∧
      (split "!ga:a\\;b==x\\,y,ga:c>=1;ga:c<=2;ga:d=~(?i)\\\\\\\\\\;$".toList).pieces =
        List.zipWith (fun site clause => List.replicate (delimited.negationsAt site) '!' ++
          escapeChars clauseCharacters clause.toList) delimited.sites clauses.flatten := by
  intro delimited
  have htext : bare.filterText delimited = .ok (some
      "!ga:a\\;b==x\\,y,ga:c>=1;ga:c<=2;ga:d=~(?i)\\\\\\\\\\;$") := rfl
  obtain ⟨clauses, hclauses, _, _, _, _, hpieces, _⟩ := split_filterText htext (by decide)
  exact ⟨htext, rfl, clauses, hclauses, hpieces⟩

end Compiler

end AnalyticsQuery
