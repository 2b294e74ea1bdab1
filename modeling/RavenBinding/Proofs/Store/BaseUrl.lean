import RavenBinding.Proofs.Store.Arrival
import RavenBinding.Proofs.Store.Databases
import RavenBinding.Proofs.Store.SettledUrl

/-!
# Requests on any URL

The URL of a session may have a path and a query. With a query, all requests go to its path; without
one, their own paths are added to it. Where the two requests that make sure of a database arrive,
the segments tell.

## Main definitions

- `Store.folderOf`: the segments of the URL before those of a request

## Main statements

- `Store.segments_of_query`, `Store.segments_of_folder`: the segments with which a request arrives
- `Store.answer_of_listing`: the listing at its place
- `Store.segments_of_listing`, `Store.segments_of_creation`: where the two requests arrive
-/

namespace RavenBinding

open Url

namespace Session

/-- What is known of a request that was built. -/
theorem request_eq_ok {session : Session} {ask : Ask} {request : Request}
    (h : session.request ask = .ok request) :
    request.method = ask.method ∧ ∃ url,
      session.base.withRawPath
        (session.base.rawPath ++ ask.path.trimLeft (· == CodePoint.ofChar '/')) = .ok url ∧
      queried url ask.query = .ok request.url := by
  rw [request_steps] at h
  obtain ⟨url, hresolve, h⟩ := Attempt.bind_eq_ok_iff.1 h
  obtain ⟨given, -, h⟩ := Attempt.bind_eq_ok_iff.1 h
  obtain ⟨url', hqueried, h⟩ := Attempt.bind_eq_ok_iff.1 h
  obtain ⟨shown, -, h⟩ := Attempt.bind_eq_ok_iff.1 h
  obtain ⟨body, -, h⟩ := Attempt.bind_eq_ok_iff.1 h
  obtain ⟨-, rfl⟩ := (checkHost_eq_ok_iff _ _ _ _).1 h
  have hurl := Attempt.mapError_eq_ok_iff.1 hresolve
  rw [resolve] at hurl
  split at hurl
  · cases hurl
  · exact ⟨rfl, url, hurl, hqueried⟩

end Session

/-! ### Where the two requests arrive -/

namespace Store

theorem cut_rawPath {url : Url} (h : IsSettledPath url.path) :
    Text.cut (CodePoint.ofChar '?') url.rawPath = (url.sentPath, url.query) := by
  cases hq : url.query with
  | none =>
    have hcut := cut_rawPath_of_none h hq (t := []) List.not_mem_nil
    rwa [List.append_nil, List.append_nil] at hcut
  | some q =>
    have hcut := cut_rawPath_of_some h hq []
    rwa [List.append_nil, List.append_nil] at hcut

/-- The segments of a request are the pieces of its path but for the first one. -/
theorem segments_of_path {request : Request} (h : IsSettledPath request.url.path) :
    request.segments =
      ((Text.splitOn (CodePoint.ofChar '/') request.url.sentPath).drop 1).map Percent.decode := by
  rw [Request.segments, cut_rawPath h]
  rfl

theorem settled_of_queried {url url' : Url} {query : Option (List (Text × Int))}
    (hurl : url.IsSettled) (h : Session.queried url query = .ok url') :
    url'.IsSettled ∧ url'.path = url.path := by
  cases query with
  | none =>
    obtain rfl := Except.ok.inj h
    exact ⟨hurl, rfl⟩
  | some query =>
    obtain ⟨text, -, hquery⟩ := Attempt.bind_eq_ok_iff.1 h
    obtain ⟨hsettled, hpath, -⟩ := hurl.withQuery_eq_ok (Attempt.mapError_eq_ok_iff.1 hquery)
    exact ⟨hsettled, hpath⟩

section Requests

variable {session : Session} {ask : Ask} {request : Request}

/-- If the URL of the session has a query, a request goes to its path. -/
theorem segments_of_query (hbase : session.base.IsBase) {q : Text}
    (hq : session.base.query = some q) (h : session.request ask = .ok request) :
    request.segments =
      ((Text.splitOn (CodePoint.ofChar '/') session.base.sentPath).drop 1).map Percent.decode := by
  obtain ⟨-, url, hurl, hqueried⟩ := Session.request_eq_ok h
  obtain ⟨hsettled, hpath, -⟩ := hbase.settled.withRawPath_eq_ok hurl
  obtain ⟨hsettled', hkept⟩ := settled_of_queried hsettled hqueried
  have hsent := hbase.settled.path.sentPath
  rw [cut_rawPath_of_some hbase.settled.path hq] at hpath
  dsimp only at hpath
  rw [hsent.reread_eq] at hpath
  have hne : session.base.sentPath.isEmpty = false :=
    List.isEmpty_eq_false_iff.2 session.base.sentPath_ne_nil
  have hsame : request.url.sentPath = session.base.sentPath := by
    rw [Url.sentPath, hkept, ← Except.ok.inj hpath, hne]
    rfl
  rw [segments_of_path hsettled'.path, hsame]

/-- Without a query, the path of the request is added to the path of the session. -/
theorem segments_of_folder (hbase : session.base.IsBase) (hq : session.base.query = none)
    (h : session.request ask = .ok request) {added : Text}
    (hadded : ask.path.trimLeft (· == CodePoint.ofChar '/') = added)
    (hcharacters : ∀ c ∈ added, IsPathCharacter c) {folder : Text}
    (hfolder : session.base.sentPath = folder ++ [CodePoint.ofChar '/'])
    {first : Text} {segments : List Text} (hne : segments ≠ [])
    (hleft : removeDotsLoop (Text.splitOn (CodePoint.ofChar '/') folder).reverse
      (Text.splitOn (CodePoint.ofChar '/') added) = first :: segments) :
    request.segments = segments.map Percent.decode := by
  obtain ⟨second, rest, rfl⟩ := List.exists_cons_of_ne_nil hne
  obtain ⟨-, url, hurl, hqueried⟩ := Session.request_eq_ok h
  obtain ⟨hsettled, hpath, -⟩ := hbase.settled.withRawPath_eq_ok hurl
  obtain ⟨hsettled', hkept⟩ := settled_of_queried hsettled hqueried
  have hsent := hbase.settled.path.sentPath
  rw [hadded,
    cut_rawPath_of_none hbase.settled.path hq (not_mem_of_characters hcharacters)] at hpath
  dsimp only at hpath
  have hraw : session.base.sentPath ++ added = folder ++ CodePoint.ofChar '/' :: added := by
    rw [hfolder, List.append_assoc]
    rfl
  have hremoved : removeDots (session.base.sentPath ++ added) =
      Text.join [CodePoint.ofChar '/'] (first :: second :: rest) := by
    have hplain : ∀ s ∈ Text.splitOn (CodePoint.ofChar '/') folder, ¬s.IsDotSegment := by
      intro s hs
      refine hsent.segments s ?_
      rw [hfolder, Text.splitOn_append folder []]
      exact List.mem_append_left _ hs
    simp only [removeDots]
    rw [hraw, Text.splitOn_append, removeDotsLoop_append hplain, List.append_nil, hleft]
  have hencoded : ∀ c ∈ removeDots (session.base.sentPath ++ added), IsPathCharacter c := by
    intro c hc
    rcases mem_removeDots hc with rfl | hc
    · exact IsPathCharacter.slash
    · exact (List.mem_append.1 hc).elim (hsent.characters c) (hcharacters c)
  rw [encodeComponent_of_characters hencoded, hremoved] at hpath
  have hurlpath : request.url.path = Text.join [CodePoint.ofChar '/'] (first :: second :: rest) :=
    hkept.trans (Except.ok.inj hpath).symm
  have hsame : request.url.sentPath =
      Text.join [CodePoint.ofChar '/'] (first :: second :: rest) := by
    rw [Url.sentPath, hurlpath, Text.join_cons_cons]
    simp
  have hpieces : ∀ s ∈ first :: second :: rest, CodePoint.ofChar '/' ∉ s := by
    intro s hs
    rw [← hleft] at hs
    rcases mem_removeDotsLoop hs with hs | hs
    · exact Text.not_mem_of_mem_splitOn (List.mem_reverse.1 hs)
    · exact Text.not_mem_of_mem_splitOn hs
  rw [segments_of_path hsettled'.path, hsame, Text.splitOn_join hpieces]
  rfl

end Requests

/-! ### Listing and creation -/

/-- The segments before those of the requests, for a URL without a query. -/
def folderOf (base : Url) : List Text :=
  ((Text.splitOn (CodePoint.ofChar '/') base.sentPath).dropLast.drop 1).map Percent.decode

/-- Without a path and a query there is no folder. -/
theorem folderOf_of_rawPath {base : Url} (h : base.rawPath = Text.ofString "/") :
    base.query = none ∧ folderOf base = [] := by
  rw [rawPath_eq] at h
  cases hq : base.query with
  | some q =>
    obtain ⟨c, rest, hsent⟩ := List.exists_cons_of_ne_nil base.sentPath_ne_nil
    rw [hq, hsent] at h
    have hlength := congrArg List.length h
    simp [Text.ofString] at hlength
  | none =>
    rw [hq] at h
    have hsent : base.sentPath = Text.ofString "/" := (List.append_nil _).symm.trans h
    refine ⟨rfl, ?_⟩
    rw [folderOf, hsent]
    rfl

section Listing

variable {session : Session} {pageSize : Int} {listing : Request}

/-- On any URL a listing asks for its page. -/
theorem query_of_listing (hbase : session.base.IsBase)
    (h : session.request (listingAsk pageSize) = .ok listing) :
    tooManyDigits pageSize = false ∧ (Text.cut (CodePoint.ofChar '?') listing.url.rawPath).2 =
      some (listingQuery pageSize) := by
  obtain ⟨-, url, hurl, hqueried⟩ := Session.request_eq_ok h
  obtain ⟨hsettled, -, -⟩ := hbase.settled.withRawPath_eq_ok hurl
  obtain ⟨text, htext, hquery⟩ := Attempt.bind_eq_ok_iff.1 hqueried
  have hfew : tooManyDigits pageSize = false := by
    cases hmany : tooManyDigits pageSize with
    | false => rfl
    | true =>
      rw [Session.queryText, if_pos (by simp [hmany])] at htext
      cases htext
  rw [queryText_listing hfew] at htext
  obtain rfl := Except.ok.inj htext
  obtain ⟨hsettled', -, hencoded⟩ := hsettled.withQuery_eq_ok (Attempt.mapError_eq_ok_iff.1 hquery)
  rw [(isPlainQuery_listing pageSize).encodeOptional_eq] at hencoded
  refine ⟨hfew, ?_⟩
  rw [cut_rawPath hsettled'.path]
  exact (Except.ok.inj hencoded).symm

/-- At the place of the listing the page is the answer. -/
theorem answer_of_listing (hbase : session.base.IsBase)
    (h : session.request (listingAsk pageSize) = .ok listing)
    (hsegments : listing.segments = [Text.ofString "databases"]) (server : Server) :
    server.answer listing = (server.listing pageSize, server) := by
  obtain ⟨hmethod, -⟩ := Session.request_eq_ok h
  obtain ⟨hfew, hquery⟩ := query_of_listing hbase h
  rw [Request.segments] at hsegments
  rw [Server.answer]
  simp only [hmethod, hquery, Option.getD_some, Server.respond.eq_def, hsegments, listingAsk,
    beq_self_eq_true, if_true, queryNumber_start, queryNumber_pageSize hfew, Int.zero_add]
  rfl

end Listing

section Folder

variable {session : Session} (hbase : session.base.IsBase) (hq : session.base.query = none)

include hbase hq in
/-- The path without a query ends with a slash, and the segments before it are those before the
requests. -/
theorem exists_folder :
    ∃ folder first rest, session.base.sentPath = folder ++ [CodePoint.ofChar '/'] ∧
      Text.splitOn (CodePoint.ofChar '/') folder = first :: rest ∧
      folderOf session.base = rest.map Percent.decode := by
  obtain ⟨folder, hfolder⟩ := List.getLast?_eq_some_iff.1 (rawPath_of_no_query hq ▸ hbase.last)
  have hne : Text.splitOn (CodePoint.ofChar '/') folder ≠ [] := Text.splitOn_ne_nil folder
  obtain ⟨first, rest, hpieces⟩ := List.exists_cons_of_ne_nil hne
  refine ⟨folder, first, rest, hfolder, hpieces, ?_⟩
  have hlast : Text.splitOn (CodePoint.ofChar '/') [] = [[]] := rfl
  rw [folderOf, hfolder, Text.splitOn_append folder [], hpieces, hlast, List.dropLast_concat]
  rfl

include hbase hq in
theorem segments_of_listing {pageSize : Int} {listing : Request}
    (h : session.request (listingAsk pageSize) = .ok listing) :
    listing.segments = folderOf session.base ++ [Text.ofString "databases"] := by
  obtain ⟨folder, first, rest, hfolder, hpieces, hfolderOf⟩ := exists_folder hbase hq
  have hadded : Text.splitOn (CodePoint.ofChar '/') (Text.ofString "databases") =
      [Text.ofString "databases"] := by decide
  have hleft : removeDotsLoop (Text.splitOn (CodePoint.ofChar '/') folder).reverse
      (Text.splitOn (CodePoint.ofChar '/') (Text.ofString "databases")) =
        first :: (rest ++ [Text.ofString "databases"]) := by
    rw [hpieces, hadded, removeDotsLoop_cons (by decide), removeDotsLoop]
    simp
  rw [segments_of_folder hbase hq h (show _ = Text.ofString "databases" from rfl)
    (List.all_eq_true.1 (by decide)) hfolder (by simp) hleft, List.map_append, hfolderOf]
  rfl

theorem splitOn_creation (database : Text) :
    Text.splitOn (CodePoint.ofChar '/')
      (Text.ofString "admin/databases/" ++ Percent.quote database) =
        [Text.ofString "admin", Text.ofString "databases", Percent.quote database] := by
  have hsplit : Text.ofString "admin/databases/" ++ Percent.quote database =
      Text.ofString "admin" ++ CodePoint.ofChar '/' ::
        (Text.ofString "databases" ++ CodePoint.ofChar '/' :: Percent.quote database) := rfl
  rw [hsplit, Text.splitOn_append_cons (by decide), Text.splitOn_append_cons (by decide),
    Text.splitOn_of_not_mem (Percent.not_mem_quote (by decide) (by decide) database)]

include hbase hq in
/-- Without a query the creation arrives with all its segments or, if its last one is a dot segment,
with fewer. -/
theorem segments_of_creation {definition : DatabaseDefinition} {database : Text}
    {creation : Request} (hd : database.isScalar = true)
    (h : session.request (creationAsk definition (Percent.quote database)) = .ok creation) :
    creation.segments = folderOf session.base ++ creationSegments database ∨
      creation.segments = folderOf session.base ++
        [Text.ofString "admin", Text.ofString "databases"] ∨
      creation.segments = folderOf session.base ++ [Text.ofString "admin"] := by
  obtain ⟨folder, first, rest, hfolder, hpieces, hfolderOf⟩ := exists_folder hbase hq
  have hcut : (creationAsk definition (Percent.quote database)).path.trimLeft
      (· == CodePoint.ofChar '/') =
        Text.ofString "admin/databases/" ++ Percent.quote database := rfl
  have hcharacters : ∀ c ∈ Text.ofString "admin/databases/" ++ Percent.quote database,
      IsPathCharacter c := by
    intro c hc
    rcases List.mem_append.1 hc with hc | hc
    · have hfixed : (Text.ofString "admin/databases/").all
          (fun c => Percent.isUnreserved c || isPathSafe c) = true := by decide
      exact List.all_eq_true.1 hfixed c hc
    · exact isPathCharacter_of_mem_quote hc
  have harrives : ∀ left : List Text, left ≠ [] →
      removeDotsLoop (Text.ofString "databases" :: Text.ofString "admin" ::
        (first :: rest).reverse) [Percent.quote database] = first :: left →
      creation.segments = left.map Percent.decode := by
    intro left hne hleft
    have hloop : removeDotsLoop (Text.splitOn (CodePoint.ofChar '/') folder).reverse
        (Text.splitOn (CodePoint.ofChar '/')
          (Text.ofString "admin/databases/" ++ Percent.quote database)) = first :: left := by
      rw [hpieces, splitOn_creation, removeDotsLoop_cons (by decide),
        removeDotsLoop_cons (by decide), hleft]
    exact segments_of_folder hbase hq h hcut hcharacters hfolder hne hloop
  have hfound : Text.ofString "databases" :: Text.ofString "admin" :: (first :: rest).reverse ≠
      [[]] := by simp
  rw [hfolderOf]
  -- the last segment stays, is dropped, or drops the one before it as well
  rcases removeDotsLoop_last hfound (Percent.quote database) with hlast | hlast | hlast
  · refine Or.inr (Or.inl ?_)
    rw [harrives (rest ++ [Text.ofString "admin", Text.ofString "databases"]) (by simp)
      (hlast.trans (by simp)), List.map_append]
    rfl
  · refine Or.inr (Or.inr ?_)
    rw [harrives (rest ++ [Text.ofString "admin"]) (by simp) (hlast.trans (by simp)),
      List.map_append]
    rfl
  · refine Or.inl ?_
    have hname : Percent.decode (Percent.quote database) = database := Percent.decode_quote hd
    rw [harrives (rest ++ [Text.ofString "admin", Text.ofString "databases",
      Percent.quote database]) (by simp) (hlast.trans (by simp)), List.map_append, List.map_cons,
      List.map_cons, List.map_cons, hname]
    rfl

end Folder

end Store

end RavenBinding
