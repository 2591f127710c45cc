import LexicalGrammar.Proofs.Partition
import LexicalGrammar.Proofs.Position
import LexicalGrammar.Report.Tokens

namespace LexicalGrammar

theorem Tokenizer.StandsIn.tokens {t : Tokenizer} {text : Text} (h : t.StandsIn text) :
    (t.tokens.Pairwise fun a b => a.start < b.start) ∧ ∀ token ∈ t.tokens,
      t.position ≤ token.start ∧ ∃ back, suffixAt? text token.start = some (token.text ++ back) := by
  induction t using run_induction with
  | done t hend =>
      rw [tokens_of_end hend]
      exact ⟨List.Pairwise.nil, by simp⟩
  | token t r hr ih =>
      obtain ⟨hpairwise, hlater⟩ := ih (h.behind hr)
      have hpos := width_pos_of_ne_nil (Configuration.text_ne_nil_of_classify hr)
      obtain ⟨_, _, _, hskip⟩ := t.rest_eq_append
      have hbehind : (t.behind r).position = t.skipWhiteSpace.position + width r.lexeme.text := rfl
      rw [tokens_of_classify hr]
      refine ⟨List.pairwise_cons.mpr ⟨fun token hm => ?_, hpairwise⟩, fun token hm => ?_⟩
      · have := (hlater token hm).1
        rw [Reading.start_tokenAt]
        omega
      · rcases List.mem_cons.mp hm with rfl | hm
        · refine ⟨by rw [Reading.start_tokenAt]; omega, r.lexeme.rest, ?_⟩
          have hwhole := Configuration.whole_of_classify hr
          exact h.skipWhiteSpace.trans (congrArg some hwhole.symm)
        · obtain ⟨hle, hback⟩ := hlater token hm
          exact ⟨by omega, hback⟩

def Configuration.records (c : Configuration) (showPlain : Bool) (source : Text) :
    List TokenRecord :=
  ((c.tokenize source).filter fun t => showPlain || t.kind != .plain).map
    (TokenRecord.ofToken (lineStarts source))

structure TokenRecord.Placed (source : Text) (records : List TokenRecord) : Prop where
  ordered : records.Pairwise fun a b => a.position.Before b.position
  found : ∀ r ∈ records, ∃ back, suffixAt? source r.start = some (r.text ++ back) ∧
    textFrom? source r.position = some (r.text ++ back)

theorem Configuration.placed_records (c : Configuration) (showPlain : Bool) (source : Text) :
    TokenRecord.Placed source (c.records showPlain source) := by
  obtain ⟨hpairwise, htokens⟩ := (Tokenizer.standsIn_start c source).tokens
  constructor
  · refine List.pairwise_map.mpr ((hpairwise.imp_of_mem fun ha hb hlt => ?_).filter _)
    obtain ⟨_, _, ha⟩ := htokens _ ha
    obtain ⟨_, _, hb⟩ := htokens _ hb
    exact positionAt_before ⟨_, ha⟩ ⟨_, hb⟩ hlt
  · intro r hr
    obtain ⟨token, htoken, rfl⟩ := List.mem_map.mp hr
    obtain ⟨_, back, hback⟩ := htokens token (List.mem_of_mem_filter htoken)
    refine ⟨back, hback, ?_⟩
    obtain ⟨front, hsource, hwidth⟩ := suffixAt?_eq_some_iff.mp hback
    have hfrom := textFrom?_positionAt front (token.text ++ back)
    rw [← hsource, hwidth] at hfrom
    exact hfrom

theorem TokensRequest.exists_source_of_fileTokens {request : TokensRequest} {settings : Settings}
    {disk : Disk} {path : Text} {f : FileTokens}
    (h : request.fileTokens settings disk path = .ok f) :
    ∃ source, disk path = .ok source ∧
      f.tokens = f.language.configuration.records (request.showPlainUnder settings) source := by
  rw [fileTokens] at h
  cases hl : resolveLanguage request.language settings path with
  | error e => simp [hl, bind, Except.bind] at h
  | ok l =>
      cases hs : disk path with
      | error e => simp [hl, hs, bind, Except.bind] at h
      | ok source =>
          simp only [hl, hs, bind, Except.bind] at h
          obtain rfl := Except.ok.inj h
          exact ⟨source, rfl, rfl⟩

theorem positions_exact :
    (∀ front rest : Text,
      (LineIndex.ofText (front ++ rest)).position? (front ++ rest) (width front) =
          some (positionAt (front ++ rest) (width front)) ∧
        positionAt (front ++ rest) (width front) =
          ⟨front.count '\n' + 1, (front.rtakeWhile (· != '\n')).length + 1⟩) ∧
      (∀ (source : Text) (a b : Nat), IsBoundary source a → IsBoundary source b →
        ((positionAt source a).Before (positionAt source b) ↔ a < b)) ∧
      (∀ (c : Configuration) (showPlain : Bool) (source : Text),
        TokenRecord.Placed source (c.records showPlain source)) ∧
      ∀ (request : TokensRequest) (settings : Settings) (disk : Disk) (path : Text) (f : FileTokens),
        request.fileTokens settings disk path = .ok f →
          ∃ source, disk path = .ok source ∧ TokenRecord.Placed source f.tokens := by
  refine ⟨fun front rest => ⟨LineIndex.position?_ofText front rest, positionAt_eq front rest⟩,
    fun _ _ _ ha hb => positionAt_before_iff ha hb, Configuration.placed_records, ?_⟩
  intro request settings disk path f h
  obtain ⟨source, hsource, htokens⟩ := TokensRequest.exists_source_of_fileTokens h
  exact ⟨source, hsource, htokens ▸ Configuration.placed_records _ _ source⟩

example : positionAt "ab\nçd\n\nx".toList 8 = ⟨4, 1⟩ := by decide

end LexicalGrammar
