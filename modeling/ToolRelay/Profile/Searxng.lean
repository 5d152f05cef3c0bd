import ToolRelay.Operation

/-!
# Searches

Eight operations that search through a SearXNG instance. All send the same request with the query,
and the special ones fix the category, put words of their own around the query, or both.
-/

set_option autoImplicit false

namespace ToolRelay.Searxng

/-- What stands before the message of a failed request. -/
def errorLabel : String := "Error executing search"

/-- How many results are shown when none, or zero, is asked for. -/
def defaultMaxResults : Nat := 10

/-- The request for a query, with the answer in JSON. -/
def searchRequest (q : String) : SearchRequest :=
  ((SearchRequest.ofPath "/search").param "q" q).param "format" "json"

/-- The plan to send a request and show so many of the records. -/
def recordsPlan (request : SearchRequest) (maxResults : Nat) (template : Template)
    (query : String) : Plan where
  request := .search request
  limit := some (if maxResults = 0 then defaultMaxResults else maxResults)
  template := template
  query := query

/-- The parameters that every search ends with. -/
def withMaxResults : Signature (Nat × Unit) :=
  .withDefault "max_results" (.natural .bits64) defaultMaxResults
    "Maximum number of results to return" .nil

/-- How far back a search goes. -/
inductive TimeRange
  | day
  | week
  | month
  | year
  deriving DecidableEq, Repr

/-- The word for a range. -/
def TimeRange.word : TimeRange → String
  | .day => "day"
  | .week => "week"
  | .month => "month"
  | .year => "year"

/-- The labels of the ranges. -/
def TimeRange.labels : Labels TimeRange where
  name := "TimeRange"
  values := [.day, .week, .month, .year]
  label := TimeRange.word
  note _ := none

/-- Searches the web. -/
def search : Operation where
  name := "search"
  description := "Search the web using SearXNG metasearch engine. Returns results from multiple search engines."
  errorLabel := errorLabel
  signature :=
    .required "query" .text "The search query" <|
    .withDefault "categories" .text "general"
      "Comma-separated categories to search (e.g., \"general\", \"images\", \"videos\", \"news\", \"music\", \"files\", \"it\", \"science\", \"social media\")" <|
    .withDefault "language" .text "auto"
      "Language code for results (e.g., \"en\", \"de\", \"fr\", \"auto\")" <|
    .withDefault "time_range" (.optional (.label TimeRange.labels)) none
      "Time range filter: \"day\", \"week\", \"month\", \"year\"; omit for all time" <|
    .withDefault "safesearch" (.natural .bits8) 0
      "Safe search level: 0 (off), 1 (moderate), 2 (strict)" <|
    .withDefault "pageno" (.natural .bits32) 1 "Page number of results (starts at 1)"
    withMaxResults
  plan := fun (query, categories, language, timeRange, safesearch, pageno, maxResults, ()) =>
    if 2 < safesearch then
      .error ⟨"safesearch must be 0, 1 or 2 (got " ++ Template.number safesearch ++ ")"⟩
    else
      let request :=
        ((((searchRequest query).param "categories" categories).param "language" language).paramOpt
          "time_range" (timeRange.map TimeRange.word)).param
          "safesearch" (Template.number safesearch)
      .ok (recordsPlan (request.param "pageno" (Template.number (max pageno 1))) maxResults
        .webSearch query)

/-- Searches for images. -/
def searchImages : Operation where
  name := "search_images"
  description := "Search for images using SearXNG"
  errorLabel := errorLabel
  signature := .required "query" .text "The image search query" withMaxResults
  plan := fun (query, maxResults, ()) =>
    .ok (recordsPlan ((searchRequest query).param "categories" "images") maxResults .images query)

/-- Searches the news. -/
def searchNews : Operation where
  name := "search_news"
  description := "Search for news articles using SearXNG"
  errorLabel := errorLabel
  signature :=
    .required "query" .text "The news search query" <|
    .withDefault "time_range" (.label TimeRange.labels) .week
      "Time range: \"day\", \"week\", \"month\", \"year\"" withMaxResults
  plan := fun (query, timeRange, maxResults, ()) =>
    .ok (recordsPlan
      (((searchRequest query).param "categories" "news").param "time_range" timeRange.word)
      maxResults .news query)

/-- Searches for code, in one language if it is given. -/
def searchCode : Operation where
  name := "search_code"
  description := "Search for programming and IT-related content. Uses the IT category which includes coding tutorials, documentation, and technical articles."
  errorLabel := errorLabel
  signature :=
    .required "query" .text
      "The programming/code search query (e.g., \"python async await\", \"react hooks tutorial\")" <|
    .withDefault "language" (.optional .text) none
      "Programming language to focus on (added to query)" withMaxResults
  plan := fun (query, language, maxResults, ()) =>
    let q := match language with
      | some l => l ++ " " ++ query
      | none => query
    .ok (recordsPlan ((searchRequest q).param "categories" "it") maxResults .code query)

/-- Searches Stack Overflow and its sister sites. -/
def searchStackoverflow : Operation where
  name := "search_stackoverflow"
  description := "Search Stack Overflow and programming Q&A sites for coding solutions and answers."
  errorLabel := errorLabel
  signature :=
    .required "query" .text "The coding question or error message to search for" withMaxResults
  plan := fun (query, maxResults, ()) =>
    .ok (recordsPlan
      ((searchRequest ("site:stackoverflow.com OR site:stackexchange.com " ++ query)).param
        "categories" "general")
      maxResults .stackOverflow query)

/-- Searches for documentation, of one framework if it is given. -/
def searchDocs : Operation where
  name := "search_docs"
  description := "Search for official documentation and API references. Targets documentation sites like MDN, ReadTheDocs, official docs."
  errorLabel := errorLabel
  signature :=
    .required "query" .text
      "The documentation search query (e.g., \"useState hook\", \"pandas dataframe\")" <|
    .withDefault "framework" (.optional .text) none
      "Framework or library name to focus on (e.g., \"react\", \"django\", \"pytorch\")"
    withMaxResults
  plan := fun (query, framework, maxResults, ()) =>
    let q := match framework with
      | some f => f ++ " " ++ query ++ " documentation"
      | none => query ++ " documentation"
    .ok (recordsPlan ((searchRequest q).param "categories" "it") maxResults .docs query)

/-- The registries that packages are searched in. -/
inductive PackageRegistry
  | npm
  | pypi
  | crates
  | rubygems
  | all
  deriving DecidableEq, Repr

/-- The labels of the registries. -/
def PackageRegistry.labels : Labels PackageRegistry where
  name := "PackageRegistry"
  values := [.npm, .pypi, .crates, .rubygems, .all]
  label
    | .npm => "npm"
    | .pypi => "pypi"
    | .crates => "crates"
    | .rubygems => "rubygems"
    | .all => "all"
  note _ := none

/-- The words that keep a search to a registry. -/
def PackageRegistry.siteFilter : PackageRegistry → String
  | .npm => "site:npmjs.com"
  | .pypi => "site:pypi.org"
  | .crates => "site:crates.io"
  | .rubygems => "site:rubygems.org"
  | .all => "site:npmjs.com OR site:pypi.org OR site:crates.io OR site:rubygems.org"

/-- Searches for packages. -/
def searchPackages : Operation where
  name := "search_packages"
  description := "Search for packages and libraries on npm, PyPI, crates.io, and other package registries."
  errorLabel := errorLabel
  signature :=
    .required "query" .text "The package name or functionality to search for" <|
    .withDefault "registry" (.label PackageRegistry.labels) .all
      "Package registry to focus on: \"npm\", \"pypi\", \"crates\", \"rubygems\", or \"all\""
    withMaxResults
  plan := fun (query, registry, maxResults, ()) =>
    .ok (recordsPlan
      ((searchRequest (registry.siteFilter ++ " " ++ query)).param "categories" "general")
      maxResults .packages query)

/-- The labels of what a search of GitHub looks for. -/
def scopeLabels : Labels GitHubScope where
  name := "GithubSearchType"
  values := [.repos, .code]
  label
    | .repos => "repos"
    | .code => "code"
  note _ := none

/-- The words that keep a search to GitHub. -/
def scopeFilter : GitHubScope → String
  | .repos => "site:github.com"
  | .code => "site:github.com inurl:blob"

/-- Searches GitHub. -/
def searchGithub : Operation where
  name := "search_github"
  description := "Search for GitHub repositories, code, and projects."
  errorLabel := errorLabel
  signature :=
    .required "query" .text "The search query for GitHub repos/code" <|
    .withDefault "search_type" (.label scopeLabels) .repos
      "Type of GitHub search: \"repos\" for repositories, \"code\" for code snippets"
    withMaxResults
  plan := fun (query, scope, maxResults, ()) =>
    .ok (recordsPlan ((searchRequest (scopeFilter scope ++ " " ++ query)).param "categories" "general")
      maxResults (.gitHub scope) query)

/-- The operations in the order of their registration. -/
def operations : List Operation :=
  [search, searchImages, searchNews, searchCode, searchStackoverflow, searchDocs, searchPackages,
    searchGithub]

end ToolRelay.Searxng
