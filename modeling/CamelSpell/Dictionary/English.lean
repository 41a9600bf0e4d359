import CamelSpell.Dictionary

/-!
# English words

The words that are accepted unless another word list is given, as one text with blanks between
them.
-/

namespace CamelSpell
namespace Dictionary

def englishText : String :=
  "a about above absolute abstract accept accepted access accessor according account " ++
  "accumulate accumulated acronym across action actions active actual actually adapter add " ++
  "added adding addition additional address adjust after again against agent algorithm " ++
  "alias align all allocate allow allowed allows almost alone along alphabet alphabetic " ++
  "already also alternative although always amount an analysis analyze ancestor and angle " ++
  "animation annotation another answer any anything apart api append application apply " ++
  "approach archive are area argument arguments around array arrow article as ascending " ++
  "ask aspect assert assertion asset assets assign assigned assume async asynchronous at " ++
  "attach attempt attribute attributes author auto automatic available average avoid await " ++
  "away back background backup bad balance bar base based basename basic batch be because " ++
  "become been before begin beginning behavior behaviour being below best better between " ++
  "big binary bind binding bit blank block blocks body bool boolean border both bottom " ++
  "bound boundary box branch break bridge browser buffer bug build builder building built " ++
  "bundle but button by byte bytes cache calculate call callback called caller calls can " ++
  "cancel candidate cannot capacity capital capture card care case cases catch category " ++
  "cause cell center chain change changed changes channel char character characters chart " ++
  "check checked checker checking checks child children choice choose chunk class classes " ++
  "clean clear click client clock clone close closed closing code codes collect collection " ++
  "color column columns combine command commands comment comments commit common compare " ++
  "comparison compile compiled compiler complete component components compose computation " ++
  "compute condition config configuration configure confirm conflict connect connection " ++
  "consider console const constant constraint construct constructor consume contain " ++
  "container contains content contents context continue contract control convert converter " ++
  "copy core correct correctly cost could count counter course cover create created " ++
  "creates creation current cursor custom cycle daily data database date day days debug " ++
  "decide decimal decision declare decode decoder decoding decrease default define defined " ++
  "definition delete deleted delimiter depend dependency depth derive derived descend " ++
  "descending describe description design destination destroy detail details detect " ++
  "developer development diagnostic diagnostics dictionary did diff difference different " ++
  "digit direct direction directories directory disable disabled discover discovery disk " ++
  "display distance divide do document documentation documents does domain done double " ++
  "down download draft draw driver drop due dump duplicate duration during dynamic each " ++
  "early easy edge edit editor effect either element elements else empty enable enabled " ++
  "encode encoder encoding end ending engine enough ensure enter entire entries entry " ++
  "enumerate environment equal equals error errors escape even event events every " ++
  "everything exact example examples exception exclude excluded exclusion exclusions " ++
  "execute exist existing exists exit expand expect expected explicit export expression " ++
  "extend extension extra extract fact factory fail failed failure fake false feature " ++
  "features fetch field fields file files fill filter final finally find finding findings " ++
  "finish first fix fixed flag flagged flags float flow flush focus folder follow " ++
  "following font for force form format formatter forward found frame free from front full " ++
  "function functions future general generate generated generator get given glob global " ++
  "globs go good graph greater group guard half handle handler has hash have head header " ++
  "headers height hello help helper here hidden high history hold home hook host hour how " ++
  "however icon identifier identifiers if ignore ignored image implement import in include " ++
  "included increase increment indent index indexes info information initial initialize " ++
  "inline inner input insert inside install instance instead integer interface internal " ++
  "interval into invalid is issue issues it item items iterate iterator its itself job " ++
  "join json just keep key keys kind known label language large last later layer layout " ++
  "lazy leading leaf left legacy length less letter letters level library lifetime like " ++
  "limit line lines link linked list listen listener literal load loaded loader loading " ++
  "local locale location lock log logger logging logic long look lookup loop low lower " ++
  "lowercase made main make manager map mapping mark marker match matched matcher matches " ++
  "matching max maximum may maybe measure member memory merge message messages meta " ++
  "metadata method methods middle might min minimum minute missing mistake mistakes mode " ++
  "model modify module modules moment more most move much multiple must mutable name named " ++
  "names native navigate need nested network never new next node nodes none normal " ++
  "normalize not note nothing notice notify null number numbers object objects offset " ++
  "often old on once one only open operation operations option optional options or order " ++
  "ordered origin original other otherwise out outcome output outside over override own " ++
  "owner package packages page pair panel parameter parameters parent parse parsed parser " ++
  "parsing part partial pass passed password patch path paths pattern patterns pending per " ++
  "perform performance permission person pick piece pipe place plain platform please " ++
  "plugin point pointer policy pool pop port position positions possible post power prefix " ++
  "prepare present press preview previous primary print private problem problems process " ++
  "processing produce product profile program progress project promise property protected " ++
  "protocol provide provider proxy public pull push put query queue quick quote raise " ++
  "random range rate raw reach read reader reading ready real reason receive record " ++
  "records recursive reduce reference refresh register regular reject relative release " ++
  "remain remote remove removed render renderer repeat replace reply report reports " ++
  "repository request require required reset resolve resource response rest restore result " ++
  "results retry return returns reverse review right root round route row rows rule rules " ++
  "run runner running runtime safe same sample save scale scan scanner schedule schema " ++
  "scope score screen script search second secret section secure select selected selection " ++
  "send sent separate separator sequence serial serialize server service session set " ++
  "setting settings setup shape share shared shell short should show side sign signal " ++
  "simple since single size skip slice small snapshot so socket some something sort source " ++
  "sources space span special spell spelling split splitter stack stage standard start " ++
  "started state statement static status step still stop storage store stream strict " ++
  "string strings structure style sub subject submit subscribe success such suffix summary " ++
  "support switch symbol symbols sync synchronous syntax system table tag tags take target " ++
  "task tasks template temporary test tested testing tests text than that the their them " ++
  "then there these they thing this those thread through throw tick time timeout timer " ++
  "times title to today together token tokenize tokenizer tokens too tool top total trace " ++
  "track trailing transform transition tree trigger trim true try type types undefined " ++
  "under unicode unique unit unknown unless until up update updated upload upper uppercase " ++
  "usage use used user users uses using utility valid validate validation validator value " ++
  "values variable variables verbose version view visible visit visited void wait walk " ++
  "walker want warn warning warnings was watch way we web week weight well were what when " ++
  "where whether which while white whole why width will window with within without word " ++
  "words work worker workers would wrap wrapper write writer written wrong year yes yet " ++
  "you your zero zone"

def englishEntries : List (List Char) :=
  (englishText.splitOn " ").map String.toList

def english : Dictionary :=
  ofEntries englishEntries

end Dictionary
end CamelSpell
