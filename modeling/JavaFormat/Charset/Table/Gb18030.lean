/-!
# The two-byte table of GB 18030

The pointer of a pair of bytes counts 190 trail bytes to each lead byte from 0x81.  The table has a
code point for every pointer, and U+3000 twice.
-/

set_option autoImplicit false

namespace JavaFormat.Charset.Table

/-- The code points of the table, sixteen to a number and four hexadecimal digits to each; zero
where the table has none. -/
def gb18030 : List Nat :=
  [0x4E024E044E054E064E0F4E124E174E1F4E204E214E234E264E294E2E4E2F4E31,
   0x4E334E354E374E3C4E404E414E424E444E464E4A4E514E554E574E5A4E5B4E62,
   0x4E634E644E654E674E684E6A4E6B4E6C4E6D4E6E4E6F4E724E744E754E764E77,
   0x4E784E794E7A4E7B4E7C4E7D4E7F4E804E814E824E834E844E854E874E8A4E90,
   0x4E964E974E994E9C4E9D4E9E4EA34EAA4EAF4EB04EB14EB44EB64EB74EB84EB9,
   0x4EBC4EBD4EBE4EC84ECC4ECF4ED04ED24EDA4EDB4EDC4EE04EE24EE64EE74EE9,
   0x4EED4EEE4EEF4EF14EF44EF84EF94EFA4EFC4EFE4F004F024F034F044F054F06,
   0x4F074F084F0B4F0C4F124F134F144F154F164F1C4F1D4F214F234F284F294F2C,
   0x4F2D4F2E4F314F334F354F374F394F3B4F3E4F3F4F404F414F424F444F454F47,
   0x4F484F494F4A4F4B4F4C4F524F544F564F614F624F664F684F6A4F6B4F6D4F6E,
   0x4F714F724F754F774F784F794F7A4F7D4F804F814F824F854F864F874F8A4F8C,
   0x4F8E4F904F924F934F954F964F984F994F9A4F9C4F9E4F9F4FA14FA24FA44FAB,
   0x4FAD4FB04FB14FB24FB34FB44FB64FB74FB84FB94FBA4FBB4FBC4FBD4FBE4FC0,
   0x4FC14FC24FC64FC74FC84FC94FCB4FCC4FCD4FD24FD34FD44FD54FD64FD94FDB,
   0x4FE04FE24FE44FE54FE74FEB4FEC4FF04FF24FF44FF54FF64FF74FF94FFB4FFC,
   0x4FFD4FFF5000500150025003500450055006500750085009500A500B500E5010,
   0x50115013501550165017501B501D501E50205022502350245027502B502F5030,
   0x503150325033503450355036503750385039503B503D503F5040504150425044,
   0x504550465049504A504B504D505050515052505350545056505750585059505B,
   0x505D505E505F506050615062506350645066506750685069506A506B506D506E,
   0x506F50705071507250735074507550785079507A507C507D5081508250835084,
   0x508650875089508A508B508C508E508F50905091509250935094509550965097,
   0x50985099509A509B509C509D509E509F50A050A150A250A450A650AA50AB50AD,
   0x50AE50AF50B050B150B350B450B550B650B750B850B950BC50BD50BE50BF50C0,
   0x50C150C250C350C450C550C650C750C850C950CA50CB50CC50CD50CE50D050D1,
   0x50D250D350D450D550D750D850D950DB50DC50DD50DE50DF50E050E150E250E3,
   0x50E450E550E850E950EA50EB50EF50F050F150F250F450F650F750F850F950FA,
   0x50FC50FD50FE50FF51005101510251035104510551085109510A510C510D510E,
   0x510F511051115113511451155116511751185119511A511B511C511D511E511F,
   0x512051225123512451255126512751285129512A512B512C512D512E512F5130,
   0x513151325133513451355136513751385139513A513B513C513D513E51425147,
   0x514A514C514E514F515051525153515751585159515B515D515E515F51605161,
   0x51635164516651675169516A516F5172517A517E517F5183518451865187518A,
   0x518B518E518F51905191519351945198519A519D519E519F51A151A351A651A7,
   0x51A851A951AA51AD51AE51B451B851B951BA51BE51BF51C151C251C351C551C8,
   0x51CA51CD51CE51D051D251D351D451D551D651D751D851D951DA51DC51DE51DF,
   0x51E251E351E551E651E751E851E951EA51EC51EE51F151F251F451F751FE5204,
   0x52055209520B520C520F5210521352145215521C521E521F5221522252235225,
   0x52265227522A522C522F5231523252345235523C523E52445245524652475248,
   0x5249524B524E524F525252535255525752585259525A525B525D525F52605262,
   0x5263526452665268526B526C526D526E52705271527352745275527652775278,
   0x5279527A527B527C527E5280528352845285528652875289528A528B528C528D,
   0x528E528F52915292529452955296529752985299529A529C52A452A552A652A7,
   0x52AE52AF52B052B452B552B652B752B852B952BA52BB52BC52BD52C052C152C2,
   0x52C452C552C652C852CA52CC52CD52CE52CF52D152D352D452D552D752D952DA,
   0x52DB52DC52DD52DE52E052E152E252E352E552E652E752E852E952EA52EB52EC,
   0x52ED52EE52EF52F152F252F352F452F552F652F752F852FB52FC52FD53015302,
   0x5303530453075309530A530B530C530E53115312531353145318531B531C531E,
   0x531F532253245325532753285329532B532C532D532F53305331533253335334,
   0x5335533653375338533C533D5340534253445346534B534C534D535053545358,
   0x5359535B535D53655368536A536C536D537253765379537B537C537D537E5380,
   0x5381538353875388538A538E538F53905391539253935394539653975399539B,
   0x539C539E53A053A153A453A753AA53AB53AC53AD53AF53B053B153B253B353B4,
   0x53B553B753B853B953BA53BC53BD53BE53C053C353C453C553C653C753CE53CF,
   0x53D053D253D353D553DA53DC53DD53DE53E153E253E753F453FA53FE53FF5400,
   0x540254055407540B541454185419541A541C542254245425542A543054335436,
   0x5437543A543D543F544154425444544554475449544C544D544E544F5451545A,
   0x545D545E545F546054615463546554675469546A546B546C546D546E546F5470,
   0x54745479547A547E547F548154835485548754885489548A548D549154935497,
   0x5498549C549E549F54A054A154A254A554AE54B054B254B554B654B754B954BA,
   0x54BC54BE54C354C554CA54CB54D654D854DB54E054E154E254E354E454EB54EC,
   0x54EF54F054F154F454F554F654F754F854F954FB54FE55005502550355045505,
   0x5508550A550B550C550D550E5512551355155516551755185519551A551C551D,
   0x551E551F55215525552655285529552B552D553255345535553655385539553A,
   0x553B553D55405542554555475548554B554C554D554E554F5551555255535554,
   0x555755585559555A555B555D555E555F55605562556355685569556B556F5570,
   0x55715572557355745579557A557D557F55855586558C558D558E559055925593,
   0x559555965597559A559B559E55A055A155A255A355A455A555A655A855A955AA,
   0x55AB55AC55AD55AE55AF55B055B255B455B655B855BA55BC55BF55C055C155C2,
   0x55C355C655C755C855CA55CB55CE55CF55D055D555D755D855D955DA55DB55DE,
   0x55E055E255E755E955ED55EE55F055F155F455F655F855F955FA55FB55FC55FF,
   0x560256035604560556065607560A560B560D5610561156125613561456155616,
   0x56175619561A561C561D5620562156225625562656285629562A562B562E562F,
   0x56305633563556375638563A563C563D563E5640564156425643564456455646,
   0x564756485649564A564B564F565056515652565356555656565A565B565D565E,
   0x565F566056615663566556665667566D566E566F567056725673567456755677,
   0x56785679567A567D567E567F56805681568256835684568756885689568A568B,
   0x568C568D569056915692569456955696569756985699569A569B569C569D569E,
   0x569F56A056A156A256A456A556A656A756A856A956AA56AB56AC56AD56AE56B0,
   0x56B156B256B356B456B556B656B856B956BA56BB56BD56BE56BF56C056C156C2,
   0x56C356C456C556C656C756C856C956CB56CC56CD56CE56CF56D056D156D256D3,
   0x56D556D656D856D956DC56E356E556E656E756E856E956EA56EC56EE56EF56F2,
   0x56F356F656F756F856FB56FC57005701570257055707570B570C570D570E570F,
   0x5710571157125713571457155716571757185719571A571B571D571E57205721,
   0x57225724572557265727572B5731573257345735573657375738573C573D573F,
   0x5741574357445745574657485749574B57525753575457555756575857595762,
   0x576357655767576C576E5770577157725774577557785779577A577D577E577F,
   0x57805781578757885789578A578D578E578F5790579157945795579657975798,
   0x5799579A579C579D579E579F57A557A857AA57AC57AF57B057B157B357B557B6,
   0x57B757B957BA57BB57BC57BD57BE57BF57C057C157C457C557C657C757C857C9,
   0x57CA57CC57CD57D057D157D357D657D757DB57DC57DE57E157E257E357E557E6,
   0x57E757E857E957EA57EB57EC57EE57F057F157F257F357F557F657F757FB57FC,
   0x57FE57FF580158035804580558085809580A580C580E580F5810581258135814,
   0x581658175818581A581B581C581D581F5822582358255826582758285829582B,
   0x582C582D582E582F58315832583358345836583758385839583A583B583C583D,
   0x583E583F584058415842584358455846584758485849584A584B584E584F5850,
   0x585258535855585658575859585A585B585C585D585F58605861586258635864,
   0x5866586758685869586A586D586E586F58705871587258735874587558765877,
   0x58785879587A587B587C587D587F58825884588658875888588A588B588C588D,
   0x588E588F5890589158945895589658975898589B589C589D58A058A158A258A3,
   0x58A458A558A658A758AA58AB58AC58AD58AE58AF58B058B158B258B358B458B5,
   0x58B658B758B858B958BA58BB58BD58BE58BF58C058C258C358C458C658C758C8,
   0x58C958CA58CB58CC58CD58CE58CF58D058D258D358D458D658D758D858D958DA,
   0x58DB58DC58DD58DE58DF58E058E158E258E358E558E658E758E858E958EA58ED,
   0x58EF58F158F258F458F558F758F858FA58FB58FC58FD58FE58FF590059015903,
   0x5905590659085909590A590B590C590E591059115912591359175918591B591D,
   0x591E592059215922592359265928592C59305932593359355936593B593D593E,
   0x593F5940594359455946594A594C594D5950595259535959595B595C595D595E,
   0x595F5961596359645966596759685969596A596B596C596D596E596F59705971,
   0x597259755977597A597B597C597E597F598059855989598B598C598E598F5990,
   0x5991599459955998599A599B599C599D599F59A059A159A259A659A759AC59AD,
   0x59B059B159B359B459B559B659B759B859BA59BC59BD59BF59C059C159C259C3,
   0x59C459C559C759C859C959CC59CD59CE59CF59D559D659D959DB59DE59DF59E0,
   0x59E159E259E459E659E759E959EA59EB59ED59EE59EF59F059F159F259F359F4,
   0x59F559F659F759F859FA59FC59FD59FE5A005A025A0A5A0B5A0D5A0E5A0F5A10,
   0x5A125A145A155A165A175A195A1A5A1B5A1D5A1E5A215A225A245A265A275A28,
   0x5A2A5A2B5A2C5A2D5A2E5A2F5A305A335A355A375A385A395A3A5A3B5A3D5A3E,
   0x5A3F5A415A425A435A445A455A475A485A4B5A4C5A4D5A4E5A4F5A505A515A52,
   0x5A535A545A565A575A585A595A5B5A5C5A5D5A5E5A5F5A605A615A635A645A65,
   0x5A665A685A695A6B5A6C5A6D5A6E5A6F5A705A715A725A735A785A795A7B5A7C,
   0x5A7D5A7E5A805A815A825A835A845A855A865A875A885A895A8A5A8B5A8C5A8D,
   0x5A8E5A8F5A905A915A935A945A955A965A975A985A995A9C5A9D5A9E5A9F5AA0,
   0x5AA15AA25AA35AA45AA55AA65AA75AA85AA95AAB5AAC5AAD5AAE5AAF5AB05AB1,
   0x5AB45AB65AB75AB95ABA5ABB5ABC5ABD5ABF5AC05AC35AC45AC55AC65AC75AC8,
   0x5ACA5ACB5ACD5ACE5ACF5AD05AD15AD35AD55AD75AD95ADA5ADB5ADD5ADE5ADF,
   0x5AE25AE45AE55AE75AE85AEA5AEC5AED5AEE5AEF5AF05AF25AF35AF45AF55AF6,
   0x5AF75AF85AF95AFA5AFB5AFC5AFD5AFE5AFF5B005B015B025B035B045B055B06,
   0x5B075B085B0A5B0B5B0C5B0D5B0E5B0F5B105B115B125B135B145B155B185B19,
   0x5B1A5B1B5B1C5B1D5B1E5B1F5B205B215B225B235B245B255B265B275B285B29,
   0x5B2A5B2B5B2C5B2D5B2E5B2F5B305B315B335B355B365B385B395B3A5B3B5B3C,
   0x5B3D5B3E5B3F5B415B425B435B445B455B465B475B485B495B4A5B4B5B4C5B4D,
   0x5B4E5B4F5B525B565B5E5B605B615B675B685B6B5B6D5B6E5B6F5B725B745B76,
   0x5B775B785B795B7B5B7C5B7E5B7F5B825B865B8A5B8D5B8E5B905B915B925B94,
   0x5B965B9F5BA75BA85BA95BAC5BAD5BAE5BAF5BB15BB25BB75BBA5BBB5BBC5BC0,
   0x5BC15BC35BC85BC95BCA5BCB5BCD5BCE5BCF5BD15BD45BD55BD65BD75BD85BD9,
   0x5BDA5BDB5BDC5BE05BE25BE35BE65BE75BE95BEA5BEB5BEC5BED5BEF5BF15BF2,
   0x5BF35BF45BF55BF65BF75BFD5BFE5C005C025C035C055C075C085C0B5C0C5C0D,
   0x5C0E5C105C125C135C175C195C1B5C1E5C1F5C205C215C235C265C285C295C2A,
   0x5C2B5C2D5C2E5C2F5C305C325C335C355C365C375C435C445C465C475C4C5C4D,
   0x5C525C535C545C565C575C585C5A5C5B5C5C5C5D5C5F5C625C645C675C685C69,
   0x5C6A5C6B5C6C5C6D5C705C725C735C745C755C765C775C785C7B5C7C5C7D5C7E,
   0x5C805C835C845C855C865C875C895C8A5C8B5C8E5C8F5C925C935C955C9D5C9E,
   0x5C9F5CA05CA15CA45CA55CA65CA75CA85CAA5CAE5CAF5CB05CB25CB45CB65CB9,
   0x5CBA5CBB5CBC5CBE5CC05CC25CC35CC55CC65CC75CC85CC95CCA5CCC5CCD5CCE,
   0x5CCF5CD05CD15CD35CD45CD55CD65CD75CD85CDA5CDB5CDC5CDD5CDE5CDF5CE0,
   0x5CE25CE35CE75CE95CEB5CEC5CEE5CEF5CF15CF25CF35CF45CF55CF65CF75CF8,
   0x5CF95CFA5CFC5CFD5CFE5CFF5D005D015D045D055D085D095D0A5D0B5D0C5D0D,
   0x5D0F5D105D115D125D135D155D175D185D195D1A5D1C5D1D5D1F5D205D215D22,
   0x5D235D255D285D2A5D2B5D2C5D2F5D305D315D325D335D355D365D375D385D39,
   0x5D3A5D3B5D3C5D3F5D405D415D425D435D445D455D465D485D495D4D5D4E5D4F,
   0x5D505D515D525D535D545D555D565D575D595D5A5D5C5D5E5D5F5D605D615D62,
   0x5D635D645D655D665D675D685D6A5D6D5D6E5D705D715D725D735D755D765D77,
   0x5D785D795D7A5D7B5D7C5D7D5D7E5D7F5D805D815D835D845D855D865D875D88,
   0x5D895D8A5D8B5D8C5D8D5D8E5D8F5D905D915D925D935D945D955D965D975D98,
   0x5D9A5D9B5D9C5D9E5D9F5DA05DA15DA25DA35DA45DA55DA65DA75DA85DA95DAA,
   0x5DAB5DAC5DAD5DAE5DAF5DB05DB15DB25DB35DB45DB55DB65DB85DB95DBA5DBB,
   0x5DBC5DBD5DBE5DBF5DC05DC15DC25DC35DC45DC65DC75DC85DC95DCA5DCB5DCC,
   0x5DCE5DCF5DD05DD15DD25DD35DD45DD55DD65DD75DD85DD95DDA5DDC5DDF5DE0,
   0x5DE35DE45DEA5DEC5DED5DF05DF55DF65DF85DF95DFA5DFB5DFC5DFF5E005E04,
   0x5E075E095E0A5E0B5E0D5E0E5E125E135E175E1E5E1F5E205E215E225E235E24,
   0x5E255E285E295E2A5E2B5E2C5E2F5E305E325E335E345E355E365E395E3A5E3E,
   0x5E3F5E405E415E435E465E475E485E495E4A5E4B5E4D5E4E5E4F5E505E515E52,
   0x5E535E565E575E585E595E5A5E5C5E5D5E5F5E605E635E645E655E665E675E68,
   0x5E695E6A5E6B5E6C5E6D5E6E5E6F5E705E715E755E775E795E7E5E815E825E83,
   0x5E855E885E895E8C5E8D5E8E5E925E985E9B5E9D5EA15EA25EA35EA45EA85EA9,
   0x5EAA5EAB5EAC5EAE5EAF5EB05EB15EB25EB45EBA5EBB5EBC5EBD5EBF5EC05EC1,
   0x5EC25EC35EC45EC55EC65EC75EC85ECB5ECC5ECD5ECE5ECF5ED05ED45ED55ED7,
   0x5ED85ED95EDA5EDC5EDD5EDE5EDF5EE05EE15EE25EE35EE45EE55EE65EE75EE9,
   0x5EEB5EEC5EED5EEE5EEF5EF05EF15EF25EF35EF55EF85EF95EFB5EFC5EFD5F05,
   0x5F065F075F095F0C5F0D5F0E5F105F125F145F165F195F1A5F1C5F1D5F1E5F21,
   0x5F225F235F245F285F2B5F2C5F2E5F305F325F335F345F355F365F375F385F3B,
   0x5F3D5F3E5F3F5F415F425F435F445F455F465F475F485F495F4A5F4B5F4C5F4D,
   0x5F4E5F4F5F515F545F595F5A5F5B5F5C5F5E5F5F5F605F635F655F675F685F6B,
   0x5F6E5F6F5F725F745F755F765F785F7A5F7D5F7E5F7F5F835F865F8D5F8E5F8F,
   0x5F915F935F945F965F9A5F9B5F9D5F9E5F9F5FA05FA25FA35FA45FA55FA65FA7,
   0x5FA95FAB5FAC5FAF5FB05FB15FB25FB35FB45FB65FB85FB95FBA5FBB5FBE5FBF,
   0x5FC05FC15FC25FC75FC85FCA5FCB5FCE5FD35FD45FD55FDA5FDB5FDC5FDE5FDF,
   0x5FE25FE35FE55FE65FE85FE95FEC5FEF5FF05FF25FF35FF45FF65FF75FF95FFA,
   0x5FFC600760086009600B600C60106011601360176018601A601E601F60226023,
   0x6024602C602D602E603060316032603360346036603760386039603A603D603E,
   0x6040604460456046604760486049604A604C604E604F60516053605460566057,
   0x6058605B605C605E605F6060606160656066606E60716072607460756077607E,
   0x6080608160826085608660876088608A608B608E608F60906091609360956097,
   0x60986099609C609E60A160A260A460A560A760A960AA60AE60B060B360B560B6,
   0x60B760B960BA60BD60BE60BF60C060C160C260C360C460C760C860C960CC60CD,
   0x60CE60CF60D060D260D360D460D660D760D960DB60DE60E160E260E360E460E5,
   0x60EA60F160F260F560F760F860FB60FC60FD60FE60FF61026103610461056107,
   0x610A610B610C611061116112611361146116611761186119611B611C611D611E,
   0x61216122612561286129612A612C612D612E612F613061316132613361346135,
   0x6136613761386139613A613B613C613D613E6140614161426143614461456146,
   0x61476149614B614D614F61506152615361546156615761586159615A615B615C,
   0x615E615F6160616161636164616561666169616A616B616C616D616E616F6171,
   0x617261736174617661786179617A617B617C617D617E617F6180618161826183,
   0x618461856186618761886189618A618C618D618F619061916192619361956196,
   0x619761986199619A619B619C619E619F61A061A161A261A361A461A561A661AA,
   0x61AB61AD61AE61AF61B061B161B261B361B461B561B661B861B961BA61BB61BC,
   0x61BD61BF61C061C161C361C461C561C661C761C961CC61CD61CE61CF61D061D3,
   0x61D561D661D761D861D961DA61DB61DC61DD61DE61DF61E061E161E261E361E4,
   0x61E561E761E861E961EA61EB61EC61ED61EE61EF61F061F161F261F361F461F6,
   0x61F761F861F961FA61FB61FC61FD61FE62006201620262036204620562076209,
   0x621362146219621C621D621E622062236226622762286229622B622D622F6230,
   0x623162326235623662386239623A623B623C6242624462456246624A624F6250,
   0x6255625662576259625A625C625D625E625F6260626162626264626562686271,
   0x62726274627562776278627A627B627D6281628262836285628662876288628B,
   0x628C628D628E628F629062946299629C629D629E62A362A662A762A962AA62AD,
   0x62AE62AF62B062B262B362B462B662B762B862BA62BE62C062C162C362CB62CF,
   0x62D162D562DD62DE62E062E162E462EA62EB62F062F262F562F862F962FA62FB,
   0x63006303630463056306630A630B630C630D630F631063126313631463156317,
   0x63186319631C632663276329632C632D632E6330633163336334633563366337,
   0x6338633B633C633E633F63406341634463476348634A63516352635363546356,
   0x635763586359635A635B635C635D63606364636563666368636A636B636C636F,
   0x6370637263736374637563786379637C637D637E637F63816383638463856386,
   0x638B638D639163936394639563976399639A639B639C639D639E639F63A163A4,
   0x63A663AB63AF63B163B263B563B663B963BB63BD63BF63C063C163C263C363C5,
   0x63C763C863CA63CB63CC63D163D363D463D563D763D863D963DA63DB63DC63DD,
   0x63DF63E263E463E563E663E763E863EB63EC63EE63EF63F063F163F363F563F7,
   0x63F963FA63FB63FC63FE640364046406640764086409640A640D640E64116412,
   0x64156416641764186419641A641D641F6422642364246425642764286429642B,
   0x642E642F643064316432643364356436643764386439643B643C643E64406442,
   0x64436449644B644C644D644E644F6450645164536455645664576459645A645B,
   0x645C645D645F64606461646264636464646564666468646A646B646C646E646F,
   0x64706471647264736474647564766477647B647C647D647E647F648064816483,
   0x648664886489648A648B648C648D648E648F64906493649464976498649A649B,
   0x649C649D649F64A064A164A264A364A564A664A764A864AA64AB64AF64B164B2,
   0x64B364B464B664B964BB64BD64BE64BF64C164C364C464C664C764C864C964CA,
   0x64CB64CC64CF64D164D364D464D564D664D964DA64DB64DC64DD64DF64E064E1,
   0x64E364E564E764E864E964EA64EB64EC64ED64EE64EF64F064F164F264F364F4,
   0x64F564F664F764F864F964FA64FB64FC64FD64FE64FF65016502650365046505,
   0x650665076508650A650B650C650D650E650F6510651165136514651565166517,
   0x6519651A651B651C651D651E651F652065216522652365246526652765286529,
   0x652A652C652D65306531653265336537653A653C653D65406541654265436544,
   0x65466547654A654B654D654E655065526553655465576558655A655C655F6560,
   0x656165646565656765686569656A656D656E656F657165736575657665786579,
   0x657A657B657C657D657E657F658065816582658365846585658665886589658A,
   0x658D658E658F65926594659565966598659A659D659E65A065A265A365A665A8,
   0x65AA65AC65AE65B165B265B365B465B565B665B765B865BA65BB65BE65BF65C0,
   0x65C265C765C865C965CA65CD65D065D165D365D465D565D865D965DA65DB65DC,
   0x65DD65DE65DF65E165E365E465EA65EB65F265F365F465F565F865F965FB65FC,
   0x65FD65FE65FF660166046605660766086609660B660D66106611661266166617,
   0x6618661A661B661C661E662166226623662466266629662A662B662C662E6630,
   0x66326633663766386639663A663B663D663F6640664266446645664666476648,
   0x6649664A664D664E6650665166586659665B665C665D665E6660666266636665,
   0x66676669666A666B666C666D667166726673667566786679667B667C667D667F,
   0x6680668166836685668666886689668A668B668D668E668F6690669266936694,
   0x669566986699669A669B669C669E669F66A066A166A266A366A466A566A666A9,
   0x66AA66AB66AC66AD66AF66B066B166B266B366B566B666B766B866BA66BB66BC,
   0x66BD66BF66C066C166C266C366C466C566C666C766C866C966CA66CB66CC66CD,
   0x66CE66CF66D066D166D266D366D466D566D666D766D866DA66DE66DF66E066E1,
   0x66E266E366E466E566E766E866EA66EB66EC66ED66EE66EF66F166F566F666F8,
   0x66FA66FB66FD6701670267036704670567066707670C670E670F671167126713,
   0x671667186719671A671C671E67206721672267236724672567276729672E6730,
   0x673267336736673767386739673B673C673E673F6741674467456747674A674B,
   0x674D675267546755675767586759675A675B675D67626763676467666767676B,
   0x676C676E67716774677667786779677A677B677D678067826783678567866788,
   0x678A678C678D678E678F679167926793679467966799679B679F67A067A167A4,
   0x67A667A967AC67AE67B167B267B467B967BA67BB67BC67BD67BE67BF67C067C2,
   0x67C567C667C767C867C967CA67CB67CC67CD67CE67D567D667D767DB67DF67E1,
   0x67E367E467E667E767E867EA67EB67ED67EE67F267F567F667F767F867F967FA,
   0x67FB67FC67FE68016802680368046806680D681068126814681568186819681A,
   0x681B681C681E681F68206822682368246825682668276828682B682C682D682E,
   0x682F68306831683468356836683A683B683F6847684B684D684F685268566857,
   0x68586859685A685B685C685D685E685F686A686C686D686E686F687068716872,
   0x6873687568786879687A687B687C687D687E687F688068826884688768886889,
   0x688A688B688C688D688E68906891689268946895689668986899689A689B689C,
   0x689D689E689F68A068A168A368A468A568A968AA68AB68AC68AE68B168B268B4,
   0x68B668B768B868B968BA68BB68BC68BD68BE68BF68C168C368C468C568C668C7,
   0x68C868CA68CC68CE68CF68D068D168D368D468D668D768D968DB68DC68DD68DE,
   0x68DF68E168E268E468E568E668E768E868E968EA68EB68EC68ED68EF68F268F3,
   0x68F468F668F768F868FB68FD68FE68FF69006902690369046906690769086909,
   0x690A690C690F69116913691469156916691769186919691A691B691C691D691E,
   0x69216922692369256926692769286929692A692B692C692E692F693169326933,
   0x6935693669376938693A693B693C693E69406941694369446945694669476948,
   0x6949694A694B694C694D694E694F69506951695269536955695669586959695B,
   0x695C695F6961696269646965696769686969696A696C696D696F697069726973,
   0x697469756976697A697B697D697E697F698169836985698A698B698C698E698F,
   0x6990699169926993699669976999699A699D699E699F69A069A169A269A369A4,
   0x69A569A669A969AA69AC69AE69AF69B069B269B369B569B669B869B969BA69BC,
   0x69BD69BE69BF69C069C269C369C469C569C669C769C869C969CB69CD69CF69D1,
   0x69D269D369D569D669D769D869D969DA69DC69DD69DE69E169E269E369E469E5,
   0x69E669E769E869E969EA69EB69EC69EE69EF69F069F169F369F469F569F669F7,
   0x69F869F969FA69FB69FC69FE6A006A016A026A036A046A056A066A076A086A09,
   0x6A0B6A0C6A0D6A0E6A0F6A106A116A126A136A146A156A166A196A1A6A1B6A1C,
   0x6A1D6A1E6A206A226A236A246A256A266A276A296A2B6A2C6A2D6A2E6A306A32,
   0x6A336A346A366A376A386A396A3A6A3B6A3C6A3F6A406A416A426A436A456A46,
   0x6A486A496A4A6A4B6A4C6A4D6A4E6A4F6A516A526A536A546A556A566A576A5A,
   0x6A5C6A5D6A5E6A5F6A606A626A636A646A666A676A686A696A6A6A6B6A6C6A6D,
   0x6A6E6A6F6A706A726A736A746A756A766A776A786A7A6A7B6A7D6A7E6A7F6A81,
   0x6A826A836A856A866A876A886A896A8A6A8B6A8C6A8D6A8F6A926A936A946A95,
   0x6A966A986A996A9A6A9B6A9C6A9D6A9E6A9F6AA16AA26AA36AA46AA56AA66AA7,
   0x6AA86AAA6AAD6AAE6AAF6AB06AB16AB26AB36AB46AB56AB66AB76AB86AB96ABA,
   0x6ABB6ABC6ABD6ABE6ABF6AC06AC16AC26AC36AC46AC56AC66AC76AC86AC96ACA,
   0x6ACB6ACC6ACD6ACE6ACF6AD06AD16AD26AD36AD46AD56AD66AD76AD86AD96ADA,
   0x6ADB6ADC6ADD6ADE6ADF6AE06AE16AE26AE36AE46AE56AE66AE76AE86AE96AEA,
   0x6AEB6AEC6AED6AEE6AEF6AF06AF16AF26AF36AF46AF56AF66AF76AF86AF96AFA,
   0x6AFB6AFC6AFD6AFE6AFF6B006B016B026B036B046B056B066B076B086B096B0A,
   0x6B0B6B0C6B0D6B0E6B0F6B106B116B126B136B146B156B166B176B186B196B1A,
   0x6B1B6B1C6B1D6B1E6B1F6B256B266B286B296B2A6B2B6B2C6B2D6B2E6B2F6B30,
   0x6B316B336B346B356B366B386B3B6B3C6B3D6B3F6B406B416B426B446B456B48,
   0x6B4A6B4B6B4D6B4E6B4F6B506B516B526B536B546B556B566B576B586B5A6B5B,
   0x6B5C6B5D6B5E6B5F6B606B616B686B696B6B6B6C6B6D6B6E6B6F6B706B716B72,
   0x6B736B746B756B766B776B786B7A6B7D6B7E6B7F6B806B856B886B8C6B8E6B8F,
   0x6B906B916B946B956B976B986B996B9C6B9D6B9E6B9F6BA06BA26BA36BA46BA5,
   0x6BA66BA76BA86BA96BAB6BAC6BAD6BAE6BAF6BB06BB16BB26BB66BB86BB96BBA,
   0x6BBB6BBC6BBD6BBE6BC06BC36BC46BC66BC76BC86BC96BCA6BCC6BCE6BD06BD1,
   0x6BD86BDA6BDC6BDD6BDE6BDF6BE06BE26BE36BE46BE56BE66BE76BE86BE96BEC,
   0x6BED6BEE6BF06BF16BF26BF46BF66BF76BF86BFA6BFB6BFC6BFE6BFF6C006C01,
   0x6C026C036C046C086C096C0A6C0B6C0C6C0E6C126C176C1C6C1D6C1E6C206C23,
   0x6C256C2B6C2C6C2D6C316C336C366C376C396C3A6C3B6C3C6C3E6C3F6C436C44,
   0x6C456C486C4B6C4C6C4D6C4E6C4F6C516C526C536C566C586C596C5A6C626C63,
   0x6C656C666C676C6B6C6C6C6D6C6E6C6F6C716C736C756C776C786C7A6C7B6C7C,
   0x6C7F6C806C846C876C8A6C8B6C8D6C8E6C916C926C956C966C976C986C9A6C9C,
   0x6C9D6C9E6CA06CA26CA86CAC6CAF6CB06CB46CB56CB66CB76CBA6CC06CC16CC2,
   0x6CC36CC66CC76CC86CCB6CCD6CCE6CCF6CD16CD26CD86CD96CDA6CDC6CDD6CDF,
   0x6CE46CE66CE76CE96CEC6CED6CF26CF46CF96CFF6D006D026D036D056D066D08,
   0x6D096D0A6D0D6D0F6D106D116D136D146D156D166D186D1C6D1D6D1F6D206D21,
   0x6D226D236D246D266D286D296D2C6D2D6D2F6D306D346D366D376D386D3A6D3F,
   0x6D406D426D446D496D4C6D506D556D566D576D586D5B6D5D6D5F6D616D626D64,
   0x6D656D676D686D6B6D6C6D6D6D706D716D726D736D756D766D796D7A6D7B6D7D,
   0x6D7E6D7F6D806D816D836D846D866D876D8A6D8B6D8D6D8F6D906D926D966D97,
   0x6D986D996D9A6D9C6DA26DA56DAC6DAD6DB06DB16DB36DB46DB66DB76DB96DBA,
   0x6DBB6DBC6DBD6DBE6DC16DC26DC36DC86DC96DCA6DCD6DCE6DCF6DD06DD26DD3,
   0x6DD46DD56DD76DDA6DDB6DDC6DDF6DE26DE36DE56DE76DE86DE96DEA6DED6DEF,
   0x6DF06DF26DF46DF56DF66DF86DFA6DFD6DFE6DFF6E006E016E026E036E046E06,
   0x6E076E086E096E0B6E0F6E126E136E156E186E196E1B6E1C6E1E6E1F6E226E26,
   0x6E276E286E2A6E2C6E2E6E306E316E336E356E366E376E396E3B6E3C6E3D6E3E,
   0x6E3F6E406E416E426E456E466E476E486E496E4A6E4B6E4C6E4F6E506E516E52,
   0x6E556E576E596E5A6E5C6E5D6E5E6E606E616E626E636E646E656E666E676E68,
   0x6E696E6A6E6C6E6D6E6F6E706E716E726E736E746E756E766E776E786E796E7A,
   0x6E7B6E7C6E7D6E806E816E826E846E876E886E8A6E8B6E8C6E8D6E8E6E916E92,
   0x6E936E946E956E966E976E996E9A6E9B6E9D6E9E6EA06EA16EA36EA46EA66EA8,
   0x6EA96EAB6EAC6EAD6EAE6EB06EB36EB56EB86EB96EBC6EBE6EBF6EC06EC36EC4,
   0x6EC56EC66EC86EC96ECA6ECC6ECD6ECE6ED06ED26ED66ED86ED96EDB6EDC6EDD,
   0x6EE36EE76EEA6EEB6EEC6EED6EEE6EEF6EF06EF16EF26EF36EF56EF66EF76EF8,
   0x6EFA6EFB6EFC6EFD6EFE6EFF6F006F016F036F046F056F076F086F0A6F0B6F0C,
   0x6F0D6F0E6F106F116F126F166F176F186F196F1A6F1B6F1C6F1D6F1E6F1F6F21,
   0x6F226F236F256F266F276F286F2C6F2E6F306F326F346F356F376F386F396F3A,
   0x6F3B6F3C6F3D6F3F6F406F416F426F436F446F456F486F496F4A6F4C6F4E6F4F,
   0x6F506F516F526F536F546F556F566F576F596F5A6F5B6F5D6F5F6F606F616F63,
   0x6F646F656F676F686F696F6A6F6B6F6C6F6F6F706F716F736F756F766F776F79,
   0x6F7B6F7D6F7E6F7F6F806F816F826F836F856F866F876F8A6F8B6F8F6F906F91,
   0x6F926F936F946F956F966F976F986F996F9A6F9B6F9D6F9E6F9F6FA06FA26FA3,
   0x6FA46FA56FA66FA86FA96FAA6FAB6FAC6FAD6FAE6FAF6FB06FB16FB26FB46FB5,
   0x6FB76FB86FBA6FBB6FBC6FBD6FBE6FBF6FC16FC36FC46FC56FC66FC76FC86FCA,
   0x6FCB6FCC6FCD6FCE6FCF6FD06FD36FD46FD56FD66FD76FD86FD96FDA6FDB6FDC,
   0x6FDD6FDF6FE26FE36FE46FE56FE66FE76FE86FE96FEA6FEB6FEC6FED6FF06FF1,
   0x6FF26FF36FF46FF56FF66FF76FF86FF96FFA6FFB6FFC6FFD6FFE6FFF70007001,
   0x70027003700470057006700770087009700A700B700C700D700E700F70107012,
   0x7013701470157016701770187019701C701D701E701F70207021702270247025,
   0x7026702770287029702A702B702C702D702E702F703070317032703370347036,
   0x70377038703A703B703C703D703E703F70407041704270437044704570467047,
   0x70487049704A704B704D704E7050705170527053705470557056705770587059,
   0x705A705B705C705D705F7060706170627063706470657066706770687069706A,
   0x706E707170727073707470777079707A707B707D708170827083708470867087,
   0x7088708B708C708D708F70907091709370977098709A709B709E709F70A070A1,
   0x70A270A370A470A570A670A770A870A970AA70B070B270B470B570B670BA70BE,
   0x70BF70C470C570C670C770C970CB70CC70CD70CE70CF70D070D170D270D370D4,
   0x70D570D670D770DA70DC70DD70DE70E070E170E270E370E570EA70EE70F070F1,
   0x70F270F370F470F570F670F870FA70FB70FC70FE70FF71007101710271037104,
   0x7105710671077108710B710C710D710E710F7111711271147117711B711C711D,
   0x711E711F712071217122712371247125712771287129712A712B712C712D712E,
   0x7132713371347135713771387139713A713B713C713D713E713F714071417142,
   0x714371447146714771487149714B714D714F7150715171527153715471557156,
   0x715771587159715A715B715D715F716071617162716371657169716A716B716C,
   0x716D716F7170717171747175717671777179717B717C717E717F718071817182,
   0x718371857186718771887189718B718C718D718E719071917192719371957196,
   0x7197719A719B719C719D719E71A171A271A371A471A571A671A771A971AA71AB,
   0x71AD71AE71AF71B071B171B271B471B671B771B871BA71BB71BC71BD71BE71BF,
   0x71C071C171C271C471C571C671C771C871C971CA71CB71CC71CD71CF71D071D1,
   0x71D271D371D671D771D871D971DA71DB71DC71DD71DE71DF71E171E271E371E4,
   0x71E671E871E971EA71EB71EC71ED71EF71F071F171F271F371F471F571F671F7,
   0x71F871FA71FB71FC71FD71FE71FF720072017202720372047205720772087209,
   0x720A720B720C720D720E720F7210721172127213721472157216721772187219,
   0x721A721B721C721E721F722072217222722372247225722672277229722B722D,
   0x722E722F723272337234723A723C723E72407241724272437244724572467249,
   0x724A724B724E724F7250725172537254725572577258725A725C725E72607263,
   0x726472657268726A726B726C726D7270727172737274727672777278727B727C,
   0x727D7282728372857286728772887289728C728E729072917293729472957296,
   0x729772987299729A729B729C729D729E72A072A172A272A372A472A572A672A7,
   0x72A872A972AA72AB72AE72B172B272B372B572BA72BB72BC72BD72BE72BF72C0,
   0x72C572C672C772C972CA72CB72CC72CF72D172D372D472D572D672D872DA72DB,
   0xE4C6E4C7E4C8E4C9E4CAE4CBE4CCE4CDE4CEE4CFE4D0E4D1E4D2E4D3E4D4E4D5,
   0xE4D6E4D7E4D8E4D9E4DAE4DBE4DCE4DDE4DEE4DFE4E0E4E1E4E2E4E3E4E4E4E5,
   0xE4E6E4E7E4E8E4E9E4EAE4EBE4ECE4EDE4EEE4EFE4F0E4F1E4F2E4F3E4F4E4F5,
   0xE4F6E4F7E4F8E4F9E4FAE4FBE4FCE4FDE4FEE4FFE500E501E502E503E504E505,
   0xE506E507E508E509E50AE50BE50CE50DE50EE50FE510E511E512E513E514E515,
   0xE516E517E518E519E51AE51BE51CE51DE51EE51FE520E521E522E523E524E525,
   0x30003001300200B702C902C700A8300330052014FF5E2016202620182019201C,
   0x201D3014301530083009300A300B300C300D300E300F301630173010301100B1,
   0x00D700F72236222722282211220F222A222922082237221A22A5222522202312,
   0x2299222B222E2261224C2248223D221D2260226E226F22642265221E22352234,
   0x2642264000B0203220332103FF0400A4FFE0FFE1203000A721162606260525CB,
   0x25CF25CE25C725C625A125A025B325B2203B21922190219121933013E526E527,
   0xE528E529E52AE52BE52CE52DE52EE52FE530E531E532E533E534E535E536E537,
   0xE538E539E53AE53BE53CE53DE53EE53FE540E541E542E543E544E545E546E547,
   0xE548E549E54AE54BE54CE54DE54EE54FE550E551E552E553E554E555E556E557,
   0xE558E559E55AE55BE55CE55DE55EE55FE560E561E562E563E564E565E566E567,
   0xE568E569E56AE56BE56CE56DE56EE56FE570E571E572E573E574E575E576E577,
   0xE578E579E57AE57BE57CE57DE57EE57FE580E581E582E583E584E58521702171,
   0x21722173217421752176217721782179E766E767E768E769E76AE76B24882489,
   0x248A248B248C248D248E248F2490249124922493249424952496249724982499,
   0x249A249B247424752476247724782479247A247B247C247D247E247F24802481,
   0x2482248324842485248624872460246124622463246424652466246724682469,
   0x20ACE76D3220322132223223322432253226322732283229E76EE76F21602161,
   0x21622163216421652166216721682169216A216BE770E771E586E587E588E589,
   0xE58AE58BE58CE58DE58EE58FE590E591E592E593E594E595E596E597E598E599,
   0xE59AE59BE59CE59DE59EE59FE5A0E5A1E5A2E5A3E5A4E5A5E5A6E5A7E5A8E5A9,
   0xE5AAE5ABE5ACE5ADE5AEE5AFE5B0E5B1E5B2E5B3E5B4E5B5E5B6E5B7E5B8E5B9,
   0xE5BAE5BBE5BCE5BDE5BEE5BFE5C0E5C1E5C2E5C3E5C4E5C5E5C6E5C7E5C8E5C9,
   0xE5CAE5CBE5CCE5CDE5CEE5CFE5D0E5D1E5D2E5D3E5D4E5D5E5D6E5D7E5D8E5D9,
   0xE5DAE5DBE5DCE5DDE5DEE5DFE5E0E5E1E5E2E5E3E5E43000FF01FF02FF03FFE5,
   0xFF05FF06FF07FF08FF09FF0AFF0BFF0CFF0DFF0EFF0FFF10FF11FF12FF13FF14,
   0xFF15FF16FF17FF18FF19FF1AFF1BFF1CFF1DFF1EFF1FFF20FF21FF22FF23FF24,
   0xFF25FF26FF27FF28FF29FF2AFF2BFF2CFF2DFF2EFF2FFF30FF31FF32FF33FF34,
   0xFF35FF36FF37FF38FF39FF3AFF3BFF3CFF3DFF3EFF3FFF40FF41FF42FF43FF44,
   0xFF45FF46FF47FF48FF49FF4AFF4BFF4CFF4DFF4EFF4FFF50FF51FF52FF53FF54,
   0xFF55FF56FF57FF58FF59FF5AFF5BFF5CFF5DFFE3E5E6E5E7E5E8E5E9E5EAE5EB,
   0xE5ECE5EDE5EEE5EFE5F0E5F1E5F2E5F3E5F4E5F5E5F6E5F7E5F8E5F9E5FAE5FB,
   0xE5FCE5FDE5FEE5FFE600E601E602E603E604E605E606E607E608E609E60AE60B,
   0xE60CE60DE60EE60FE610E611E612E613E614E615E616E617E618E619E61AE61B,
   0xE61CE61DE61EE61FE620E621E622E623E624E625E626E627E628E629E62AE62B,
   0xE62CE62DE62EE62FE630E631E632E633E634E635E636E637E638E639E63AE63B,
   0xE63CE63DE63EE63FE640E641E642E643E644E645304130423043304430453046,
   0x304730483049304A304B304C304D304E304F3050305130523053305430553056,
   0x305730583059305A305B305C305D305E305F3060306130623063306430653066,
   0x306730683069306A306B306C306D306E306F3070307130723073307430753076,
   0x307730783079307A307B307C307D307E307F3080308130823083308430853086,
   0x308730883089308A308B308C308D308E308F3090309130923093E772E773E774,
   0xE775E776E777E778E779E77AE77BE77CE646E647E648E649E64AE64BE64CE64D,
   0xE64EE64FE650E651E652E653E654E655E656E657E658E659E65AE65BE65CE65D,
   0xE65EE65FE660E661E662E663E664E665E666E667E668E669E66AE66BE66CE66D,
   0xE66EE66FE670E671E672E673E674E675E676E677E678E679E67AE67BE67CE67D,
   0xE67EE67FE680E681E682E683E684E685E686E687E688E689E68AE68BE68CE68D,
   0xE68EE68FE690E691E692E693E694E695E696E697E698E699E69AE69BE69CE69D,
   0xE69EE69FE6A0E6A1E6A2E6A3E6A4E6A530A130A230A330A430A530A630A730A8,
   0x30A930AA30AB30AC30AD30AE30AF30B030B130B230B330B430B530B630B730B8,
   0x30B930BA30BB30BC30BD30BE30BF30C030C130C230C330C430C530C630C730C8,
   0x30C930CA30CB30CC30CD30CE30CF30D030D130D230D330D430D530D630D730D8,
   0x30D930DA30DB30DC30DD30DE30DF30E030E130E230E330E430E530E630E730E8,
   0x30E930EA30EB30EC30ED30EE30EF30F030F130F230F330F430F530F6E77DE77E,
   0xE77FE780E781E782E783E784E6A6E6A7E6A8E6A9E6AAE6ABE6ACE6ADE6AEE6AF,
   0xE6B0E6B1E6B2E6B3E6B4E6B5E6B6E6B7E6B8E6B9E6BAE6BBE6BCE6BDE6BEE6BF,
   0xE6C0E6C1E6C2E6C3E6C4E6C5E6C6E6C7E6C8E6C9E6CAE6CBE6CCE6CDE6CEE6CF,
   0xE6D0E6D1E6D2E6D3E6D4E6D5E6D6E6D7E6D8E6D9E6DAE6DBE6DCE6DDE6DEE6DF,
   0xE6E0E6E1E6E2E6E3E6E4E6E5E6E6E6E7E6E8E6E9E6EAE6EBE6ECE6EDE6EEE6EF,
   0xE6F0E6F1E6F2E6F3E6F4E6F5E6F6E6F7E6F8E6F9E6FAE6FBE6FCE6FDE6FEE6FF,
   0xE700E701E702E703E704E705039103920393039403950396039703980399039A,
   0x039B039C039D039E039F03A003A103A303A403A503A603A703A803A9E785E786,
   0xE787E788E789E78AE78BE78C03B103B203B303B403B503B603B703B803B903BA,
   0x03BB03BC03BD03BE03BF03C003C103C303C403C503C603C703C803C9FE10FE12,
   0xFE11FE13FE14FE15FE16FE35FE36FE39FE3AFE3FFE40FE3DFE3EFE41FE42FE43,
   0xFE44FE17FE18FE3BFE3CFE37FE38FE31FE19FE33FE34E797E798E799E79AE79B,
   0xE79CE79DE79EE79FE706E707E708E709E70AE70BE70CE70DE70EE70FE710E711,
   0xE712E713E714E715E716E717E718E719E71AE71BE71CE71DE71EE71FE720E721,
   0xE722E723E724E725E726E727E728E729E72AE72BE72CE72DE72EE72FE730E731,
   0xE732E733E734E735E736E737E738E739E73AE73BE73CE73DE73EE73FE740E741,
   0xE742E743E744E745E746E747E748E749E74AE74BE74CE74DE74EE74FE750E751,
   0xE752E753E754E755E756E757E758E759E75AE75BE75CE75DE75EE75FE760E761,
   0xE762E763E764E76504100411041204130414041504010416041704180419041A,
   0x041B041C041D041E041F0420042104220423042404250426042704280429042A,
   0x042B042C042D042E042FE7A0E7A1E7A2E7A3E7A4E7A5E7A6E7A7E7A8E7A9E7AA,
   0xE7ABE7ACE7ADE7AE04300431043204330434043504510436043704380439043A,
   0x043B043C043D043E043F0440044104420443044404450446044704480449044A,
   0x044B044C044D044E044FE7AFE7B0E7B1E7B2E7B3E7B4E7B5E7B6E7B7E7B8E7B9,
   0xE7BAE7BB02CA02CB02D920132015202520352105210921962197219821992215,
   0x221F222322522266226722BF2550255125522553255425552556255725582559,
   0x255A255B255C255D255E255F2560256125622563256425652566256725682569,
   0x256A256B256C256D256E256F2570257125722573258125822583258425852586,
   0x258725882589258A258B258C258D258E258F25932594259525BC25BD25E225E3,
   0x25E425E5260922953012301D301EE7BCE7BDE7BEE7BFE7C0E7C1E7C2E7C3E7C4,
   0xE7C5E7C6010100E101CE00E0011300E9011B00E8012B00ED01D000EC014D00F3,
   0x01D200F2016B00FA01D400F901D601D801DA01DC00FC00EA02511E3F01440148,
   0x01F90261E7C9E7CAE7CBE7CC31053106310731083109310A310B310C310D310E,
   0x310F3110311131123113311431153116311731183119311A311B311C311D311E,
   0x311F3120312131223123312431253126312731283129E7CDE7CEE7CFE7D0E7D1,
   0xE7D2E7D3E7D4E7D5E7D6E7D7E7D8E7D9E7DAE7DBE7DCE7DDE7DEE7DFE7E0E7E1,
   0x30213022302330243025302630273028302932A3338E338F339C339D339E33A1,
   0x33C433CE33D133D233D5FE30FFE2FFE4E7E221213231E7E32010E7E4E7E5E7E6,
   0x30FC309B309C30FD30FE3006309D309EFE49FE4AFE4BFE4CFE4DFE4EFE4FFE50,
   0xFE51FE52FE54FE55FE56FE57FE59FE5AFE5BFE5CFE5DFE5EFE5FFE60FE61FE62,
   0xFE63FE64FE65FE66FE68FE69FE6AFE6B303E2FF02FF12FF22FF32FF42FF52FF6,
   0x2FF72FF82FF92FFA2FFB3007E7F4E7F5E7F6E7F7E7F8E7F9E7FAE7FBE7FCE7FD,
   0xE7FEE7FFE8002500250125022503250425052506250725082509250A250B250C,
   0x250D250E250F2510251125122513251425152516251725182519251A251B251C,
   0x251D251E251F2520252125222523252425252526252725282529252A252B252C,
   0x252D252E252F2530253125322533253425352536253725382539253A253B253C,
   0x253D253E253F2540254125422543254425452546254725482549254A254BE801,
   0xE802E803E804E805E806E807E808E809E80AE80BE80CE80DE80EE80F72DC72DD,
   0x72DF72E272E372E472E572E672E772EA72EB72F572F672F972FD72FE72FF7300,
   0x7302730473057306730773087309730B730C730D730F73107311731273147318,
   0x7319731A731F732073237324732673277328732D732F73307332733373357336,
   0x733A733B733C733D7340734173427343734473457346734773487349734A734B,
   0x734C734E734F7351735373547355735673587359735A735B735C735D735E735F,
   0x736173627363736473657366736773687369736A736B736E73707371E000E001,
   0xE002E003E004E005E006E007E008E009E00AE00BE00CE00DE00EE00FE010E011,
   0xE012E013E014E015E016E017E018E019E01AE01BE01CE01DE01EE01FE020E021,
   0xE022E023E024E025E026E027E028E029E02AE02BE02CE02DE02EE02FE030E031,
   0xE032E033E034E035E036E037E038E039E03AE03BE03CE03DE03EE03FE040E041,
   0xE042E043E044E045E046E047E048E049E04AE04BE04CE04DE04EE04FE050E051,
   0xE052E053E054E055E056E057E058E059E05AE05BE05CE05D7372737373747375,
   0x7376737773787379737A737B737C737D737F7380738173827383738573867388,
   0x738A738C738D738F73907392739373947395739773987399739A739C739D739E,
   0x73A073A173A373A473A573A673A773A873AA73AC73AD73B173B473B573B673B8,
   0x73B973BC73BD73BE73BF73C173C373C473C573C673C773CB73CC73CE73D273D3,
   0x73D473D573D673D773D873DA73DB73DC73DD73DF73E173E273E373E473E673E8,
   0x73EA73EB73EC73EE73EF73F073F173F373F473F573F673F7E05EE05FE060E061,
   0xE062E063E064E065E066E067E068E069E06AE06BE06CE06DE06EE06FE070E071,
   0xE072E073E074E075E076E077E078E079E07AE07BE07CE07DE07EE07FE080E081,
   0xE082E083E084E085E086E087E088E089E08AE08BE08CE08DE08EE08FE090E091,
   0xE092E093E094E095E096E097E098E099E09AE09BE09CE09DE09EE09FE0A0E0A1,
   0xE0A2E0A3E0A4E0A5E0A6E0A7E0A8E0A9E0AAE0ABE0ACE0ADE0AEE0AFE0B0E0B1,
   0xE0B2E0B3E0B4E0B5E0B6E0B7E0B8E0B9E0BAE0BB73F873F973FA73FB73FC73FD,
   0x73FE73FF740074017402740474077408740B740C740D740E7411741274137414,
   0x74157416741774187419741C741D741E741F742074217423742474277429742B,
   0x742D742F74317432743774387439743A743B743D743E743F7440744274437444,
   0x74457446744774487449744A744B744C744D744E744F74507451745274537454,
   0x74567458745D7460746174627463746474657466746774687469746A746B746C,
   0x746E746F7471747274737474747574787479747AE0BCE0BDE0BEE0BFE0C0E0C1,
   0xE0C2E0C3E0C4E0C5E0C6E0C7E0C8E0C9E0CAE0CBE0CCE0CDE0CEE0CFE0D0E0D1,
   0xE0D2E0D3E0D4E0D5E0D6E0D7E0D8E0D9E0DAE0DBE0DCE0DDE0DEE0DFE0E0E0E1,
   0xE0E2E0E3E0E4E0E5E0E6E0E7E0E8E0E9E0EAE0EBE0ECE0EDE0EEE0EFE0F0E0F1,
   0xE0F2E0F3E0F4E0F5E0F6E0F7E0F8E0F9E0FAE0FBE0FCE0FDE0FEE0FFE100E101,
   0xE102E103E104E105E106E107E108E109E10AE10BE10CE10DE10EE10FE110E111,
   0xE112E113E114E115E116E117E118E119747B747C747D747F7482748474857486,
   0x74887489748A748C748D748F749174927493749474957496749774987499749A,
   0x749B749D749F74A074A174A274A374A474A574A674AA74AB74AC74AD74AE74AF,
   0x74B074B174B274B374B474B574B674B774B874B974BB74BC74BD74BE74BF74C0,
   0x74C174C274C374C474C574C674C774C874C974CA74CB74CC74CD74CE74CF74D0,
   0x74D174D374D474D574D674D774D874D974DA74DB74DD74DF74E174E574E774E8,
   0x74E974EA74EB74EC74ED74F074F174F2E11AE11BE11CE11DE11EE11FE120E121,
   0xE122E123E124E125E126E127E128E129E12AE12BE12CE12DE12EE12FE130E131,
   0xE132E133E134E135E136E137E138E139E13AE13BE13CE13DE13EE13FE140E141,
   0xE142E143E144E145E146E147E148E149E14AE14BE14CE14DE14EE14FE150E151,
   0xE152E153E154E155E156E157E158E159E15AE15BE15CE15DE15EE15FE160E161,
   0xE162E163E164E165E166E167E168E169E16AE16BE16CE16DE16EE16FE170E171,
   0xE172E173E174E175E176E17774F374F574F874F974FA74FB74FC74FD74FE7500,
   0x75017502750375057506750775087509750A750B750C750E7510751275147515,
   0x75167517751B751D751E7520752175227523752475267527752A752E75347536,
   0x7539753C753D753F7541754275437544754675477549754A754D755075517552,
   0x75537555755675577558755D755E755F75607561756275637564756775687569,
   0x756B756C756D756E756F757075717573757575767577757A757B757C757D757E,
   0x758075817582758475857587E178E179E17AE17BE17CE17DE17EE17FE180E181,
   0xE182E183E184E185E186E187E188E189E18AE18BE18CE18DE18EE18FE190E191,
   0xE192E193E194E195E196E197E198E199E19AE19BE19CE19DE19EE19FE1A0E1A1,
   0xE1A2E1A3E1A4E1A5E1A6E1A7E1A8E1A9E1AAE1ABE1ACE1ADE1AEE1AFE1B0E1B1,
   0xE1B2E1B3E1B4E1B5E1B6E1B7E1B8E1B9E1BAE1BBE1BCE1BDE1BEE1BFE1C0E1C1,
   0xE1C2E1C3E1C4E1C5E1C6E1C7E1C8E1C9E1CAE1CBE1CCE1CDE1CEE1CFE1D0E1D1,
   0xE1D2E1D3E1D4E1D575887589758A758C758D758E7590759375957598759B759C,
   0x759E75A275A675A775A875A975AA75AD75B675B775BA75BB75BF75C075C175C6,
   0x75CB75CC75CE75CF75D075D175D375D775D975DA75DC75DD75DF75E075E175E5,
   0x75E975EC75ED75EE75EF75F275F375F575F675F775F875FA75FB75FD75FE7602,
   0x76047606760776087609760B760D760E760F76117612761376147616761A761C,
   0x761D761E7621762376277628762C762E762F76317632763676377639763A763B,
   0x763D764176427644E1D6E1D7E1D8E1D9E1DAE1DBE1DCE1DDE1DEE1DFE1E0E1E1,
   0xE1E2E1E3E1E4E1E5E1E6E1E7E1E8E1E9E1EAE1EBE1ECE1EDE1EEE1EFE1F0E1F1,
   0xE1F2E1F3E1F4E1F5E1F6E1F7E1F8E1F9E1FAE1FBE1FCE1FDE1FEE1FFE200E201,
   0xE202E203E204E205E206E207E208E209E20AE20BE20CE20DE20EE20FE210E211,
   0xE212E213E214E215E216E217E218E219E21AE21BE21CE21DE21EE21FE220E221,
   0xE222E223E224E225E226E227E228E229E22AE22BE22CE22DE22EE22FE230E231,
   0xE232E23376457646764776487649764A764B764E764F76507651765276537655,
   0x765776587659765A765B765D765F766076617662766476657666766776687669,
   0x766A766C766D766E767076717672767376747675767676777679767A767C767F,
   0x76807681768376857689768A768C768D768F769076927694769576977698769A,
   0x769B769C769D769E769F76A076A176A276A376A576A676A776A876A976AA76AB,
   0x76AC76AD76AF76B076B376B576B676B776B876B976BA76BB76BC76BD76BE76C0,
   0x76C176C3554A963F57C3632854CE550954C07691764C853C77EE827E788D7231,
   0x9698978D6C285B894FFA630966975CB880FA684880AE660276CE51F9655671AC,
   0x7FF1888450B2596561CA6FB382AD634C625253ED54277B06516B75A45DF462D4,
   0x8DCB9776628A8019575D97387F627238767D67CF767E64464F708D2562DC7A17,
   0x659173ED642C6273822C9881677F7248626E62CC4F3474E3534A529E7ECA90A6,
   0x5E2E6886699C81807ED168D278C5868C9551508D8C2482DE80DE530589125265,
   0x76C476C776C976CB76CC76D376D576D976DA76DC76DD76DE76E076E176E276E3,
   0x76E476E676E776E876E976EA76EB76EC76ED76F076F376F576F676F776FA76FB,
   0x76FD76FF77007702770377057706770A770C770E770F77107711771277137714,
   0x7715771677177718771B771C771D771E77217723772477257727772A772B772C,
   0x772E773077317732773377347739773B773D773E773F77427744774577467748,
   0x7749774A774B774C774D774E774F77527753775477557756775777587759775C,
   0x858496F94FDD582199715B9D62B162A566B48C799C8D7206676F789160B25351,
   0x53178F8880CC8D1D94A1500D72C8590760EB711988AB595482EF672C7B285D29,
   0x7EF7752D6CF58E668FF8903C9F3B6BD491197B145F7C78A784D6853D6BD56BD9,
   0x6BD65E015E8775F995ED655D5F0A5FC58F9F58C181C2907F965B97AD8FB97F16,
   0x8D2C62414FBF53D8535E8FA88FA98FAB904D68075F6A819888689CD6618B522B,
   0x762A5F6C658C6FD26EE85BBE6448517551B067C44E1979C9997C70B3775D775E,
   0x775F7760776477677769776A776D776E776F7770777177727773777477757776,
   0x77777778777A777B777C7781778277837786778777887789778A778B778F7790,
   0x7793779477957796779777987799779A779B779C779D779E77A177A377A477A6,
   0x77A877AB77AD77AE77AF77B177B277B477B677B777B877B977BA77BC77BE77C0,
   0x77C177C277C377C477C577C677C777C877C977CA77CB77CC77CE77CF77D077D1,
   0x77D277D377D477D577D677D877D977DA77DD77DE77DF77E077E177E475C55E76,
   0x73BB83E064AD62E894B56CE2535A52C3640F94C27B944F2F5E1B82368116818A,
   0x6E246CCA9A736355535C54FA886557E04E0D5E036B657C3F90E8601664E6731C,
   0x88C16750624D8D22776C8E2991C75F6983DC8521991053C286956B8B60ED60E8,
   0x707F82CD82314ED36CA785CF64CD7CD969FD66F9834953957B564FA7518C6D4B,
   0x5C428E6D63D253C9832C833667E578B4643D5BDF5C945DEE8BE762C667F48C7A,
   0x640063BA8749998B8C177F2094F24EA7961098A4660C731677E677E877EA77EF,
   0x77F077F177F277F477F577F777F977FA77FB77FC780378047805780678077808,
   0x780A780B780E780F7810781378157819781B781E78207821782278247828782A,
   0x782B782E782F78317832783378357836783D783F784178427843784478467848,
   0x7849784A784B784D784F78517853785478587859785A785B785C785E785F7860,
   0x786178627863786478657866786778687869786F787078717872787378747875,
   0x787678787879787A787B787D787E787F7880788178827883573A5C1D5E38957F,
   0x507F80A05382655E7545553150218D856284949E671D56326F6E5DE254357092,
   0x8F66626F64A463A35F7B6F8890F481E38FB05C1866685FF16C8996488D81886C,
   0x649179F057CE6A59621054484E587A0B60E96F848BDA627F901E9A8B79E45403,
   0x75F4630153196C608FDF5F1B9A70803B9F7F4F885C3A8D647FC565A570BD5145,
   0x51B2866B5D075BA062BD916C75748E0C7A2061017B794EC77EF877854E1181ED,
   0x521D51FA6A7153A88E87950496CF6EC19664695A7884788578867888788A788B,
   0x788F789078927894789578967899789D789E78A078A278A478A678A878A978AA,
   0x78AB78AC78AD78AE78AF78B578B678B778B878BA78BB78BC78BD78BF78C078C2,
   0x78C378C478C678C778C878CC78CD78CE78CF78D178D278D378D678D778D878DA,
   0x78DB78DC78DD78DE78DF78E078E178E278E378E478E578E678E778E978EA78EB,
   0x78ED78EE78EF78F078F178F378F578F678F878F978FB78FC78FD78FE78FF7900,
   0x7902790379047906790779087909790A790B790C784050A877D7641089E65904,
   0x63E35DDD7A7F693D4F20823955984E3275AE7A975E625E8A95EF521B5439708A,
   0x6376952457826625693F918755076DF37EAF882262337EF075B5832878C196CC,
   0x8F9E614874F78BCD6B64523A8D506B21806A847156F153064ECE4E1B51D17C97,
   0x918B7C074FC38E7F7BE17A9C64675D1450AC810676017CB96DEC7FE067515B58,
   0x5BF878CB64AE641363AA632B9519642D8FBE7B5476296253592754466B7950A3,
   0x62345E266B864EE38D37888B5F85902E790D790E790F79107911791279147915,
   0x7916791779187919791A791B791C791D791F7920792179227923792579267927,
   0x79287929792A792B792C792D792E792F79307931793279337935793679377938,
   0x7939793D793F79427943794479457947794A794B794C794D794E794F79507951,
   0x7952795479557958795979617963796479667969796A796B796C796E79707971,
   0x797279737974797579767979797B797C797D797E797F79827983798679877988,
   0x7989798B798C798D798E7990799179926020803D62C54E39535590F863B880C6,
   0x65E66C2E4F4660EE6DE18BDE5F3986CB5F536321515A83616863520063638E48,
   0x50125C9B79775BFC52307A3B60BC905376D75FB75F9776848E6C706F767B7B49,
   0x77AA51F3909358244F4E6EF48FEA654C7B1B72C46DA47FDF5AE162B55E955730,
   0x84827B2C5E1D5F1F90127F1498A063826EC7789870B95178975B57AB75354F43,
   0x75385E9760E659606DC06BBF788953FC96D551CB52016389540A94938C038DCC,
   0x7239789F87768FED8C0D53E07993799479957996799779987999799B799C799D,
   0x799E799F79A079A179A279A379A479A579A679A879A979AA79AB79AC79AD79AE,
   0x79AF79B079B179B279B479B579B679B779B879BC79BF79C279C479C579C779C8,
   0x79CA79CC79CE79CF79D079D379D479D679D779D979DA79DB79DC79DD79DE79E0,
   0x79E179E279E579E879EA79EC79EE79F179F279F379F479F579F679F779F979FA,
   0x79FC79FE79FF7A017A047A057A077A087A097A0A7A0C7A0F7A107A117A127A13,
   0x7A157A167A187A197A1B7A1C4E0176EF53EE948998769F0E952D5B9A8BA24E22,
   0x4E1C51AC846361C252A8680B4F97606B51BB6D1E515C6296659796618C469017,
   0x75D890FD77636BD2728A72EC8BFB583577798D4C675C9540809A5EA66E215992,
   0x7AEF77ED953B6BB565AD7F0E58065151961F5BF958A954288E726566987F56E4,
   0x949D76FE9041638754C6591A593A579B8EB267358DFA8235524160F0581586FE,
   0x5CE89E454FC4989D8BB95A2560765384627C904F9102997F6069800C513F8033,
   0x5C1499756D314E8C7A1D7A1F7A217A227A247A257A267A277A287A297A2A7A2B,
   0x7A2C7A2D7A2E7A2F7A307A317A327A347A357A367A387A3A7A3E7A407A417A42,
   0x7A437A447A457A477A487A497A4A7A4B7A4C7A4D7A4E7A4F7A507A527A537A54,
   0x7A557A567A587A597A5A7A5B7A5C7A5D7A5E7A5F7A607A617A627A637A647A65,
   0x7A667A677A687A697A6A7A6B7A6C7A6D7A6E7A6F7A717A727A737A757A7B7A7C,
   0x7A7D7A7E7A827A857A877A897A8A7A8B7A8C7A8E7A8F7A907A937A947A997A9A,
   0x7A9B7A9E7AA17AA28D3053D17F5A7B4F4F104E4F96006CD573D085E95E06756A,
   0x7FFB6A0A77FE94927E4151E170E653CD8FD483038D2972AF996D6CDB574A82B3,
   0x65B980AA623F963259A84EFF8BBF7EBA653E83F2975E556198DE80A5532A8BFD,
   0x542080BA5E9F6CB88D3982AC915A54296C1B52067EB7575F711A6C7E7C89594B,
   0x4EFD5FFF61247CAA4E305C0167AB87025CF0950B98CE75AF70FD902251AF7F1D,
   0x8BBD594951E44F5B5426592B657780A45B75627662C28F905E456C1F7B264F0F,
   0x4FD8670D7AA37AA47AA77AA97AAA7AAB7AAE7AAF7AB07AB17AB27AB47AB57AB6,
   0x7AB77AB87AB97ABA7ABB7ABC7ABD7ABE7AC07AC17AC27AC37AC47AC57AC67AC7,
   0x7AC87AC97ACA7ACC7ACD7ACE7ACF7AD07AD17AD27AD37AD47AD57AD77AD87ADA,
   0x7ADB7ADC7ADD7AE17AE27AE47AE77AE87AE97AEA7AEB7AEC7AEE7AF07AF17AF2,
   0x7AF37AF47AF57AF67AF77AF87AFB7AFC7AFE7B007B017B027B057B077B097B0C,
   0x7B0D7B0E7B107B127B137B167B177B187B1A7B1C7B1D7B1F7B217B227B237B27,
   0x7B297B2D6D6E6DAA798F88B15F17752B629A8F854FEF91DC65A7812F81515E9C,
   0x81508D74526F89868D4B590D50854ED8961C723681798D1F5BCC8BA396445987,
   0x7F1A54905676560E8BE565396982949976D66E895E727518674667D17AFF809D,
   0x8D76611F79C665628D635188521A94A27F38809B7EB25C976E2F67607BD9768B,
   0x9AD8818F7F947CD5641E95507A3F544A54E56B4C640162089E3D80F375995272,
   0x9769845B683C86E49601969494EC4E2A54047ED968398DDF801566F45E9A7FB9,
   0x7B2F7B307B327B347B357B367B377B397B3B7B3D7B3F7B407B417B427B437B44,
   0x7B467B487B4A7B4D7B4E7B537B557B577B597B5C7B5E7B5F7B617B637B647B65,
   0x7B667B677B687B697B6A7B6B7B6C7B6D7B6F7B707B737B747B767B787B7A7B7C,
   0x7B7D7B7F7B817B827B837B847B867B877B887B897B8A7B8B7B8C7B8E7B8F7B91,
   0x7B927B937B967B987B997B9A7B9B7B9E7B9F7BA07BA37BA47BA57BAE7BAF7BB0,
   0x7BB27BB37BB57BB67BB77BB97BBA7BBB7BBC7BBD7BBE7BBF7BC07BC27BC37BC4,
   0x57C2803F68975DE5653B529F606D9F9A4F9B8EAC516C5BAB5F135DE96C5E62F1,
   0x8D21517194A952FE6C9F82DF72D757A267848D2D591F8F9C83C754957B8D4F30,
   0x6CBD5B6459D19F1353E486CA9AA88C3780A16545987E56FA96C7522E74DC5250,
   0x5BE1630289024E5662D0602A68FA51735B9851A089C27BA199867F5060EF704C,
   0x8D2F51495E7F901B747089C4572D78455F529F9F95FA8F689B3C8BE176786842,
   0x67DC8DEA8D35523D8F8A6EDA68CD950590ED56FD679C88F98FC754C87BC57BC8,
   0x7BC97BCA7BCB7BCD7BCE7BCF7BD07BD27BD47BD57BD67BD77BD87BDB7BDC7BDE,
   0x7BDF7BE07BE27BE37BE47BE77BE87BE97BEB7BEC7BED7BEF7BF07BF27BF37BF4,
   0x7BF57BF67BF87BF97BFA7BFB7BFD7BFF7C007C017C027C037C047C057C067C08,
   0x7C097C0A7C0D7C0E7C107C117C127C137C147C157C177C187C197C1A7C1B7C1C,
   0x7C1D7C1E7C207C217C227C237C247C257C287C297C2B7C2C7C2D7C2E7C2F7C30,
   0x7C317C327C337C347C357C367C377C397C3A7C3B7C3C7C3D7C3E7C429AB85B69,
   0x6D776C264EA55BB39A87916361A890AF97E9542B6DB55BD251FD558A7F557FF0,
   0x64BC634D65F161BE608D710A6C576C49592F676D822A58D5568E8C6A6BEB90DD,
   0x597D801753F76D695475559D837783CF683879BE548C4F55540876D28C899602,
   0x6CB36DB88D6B89109E648D3A563F9ED175D55F8872E0606854FC4EA86A2A8861,
   0x60528F7054C470D886799E3F6D2A5B8F5F187EA255894FAF7334543C539A5019,
   0x540E547C4E4E5FFD745A58F6846B80E1877472D07CCA6E567C437C447C457C46,
   0x7C477C487C497C4A7C4B7C4C7C4E7C4F7C507C517C527C537C547C557C567C57,
   0x7C587C597C5A7C5B7C5C7C5D7C5E7C5F7C607C617C627C637C647C657C667C67,
   0x7C687C697C6A7C6B7C6C7C6D7C6E7C6F7C707C717C727C757C767C777C787C79,
   0x7C7A7C7E7C7F7C807C817C827C837C847C857C867C877C887C8A7C8B7C8C7C8D,
   0x7C8E7C8F7C907C937C947C967C997C9A7C9B7CA07CA17CA37CA67CA77CA87CA9,
   0x7CAB7CAC7CAD7CAF7CB07CB47CB57CB67CB77CB87CBA7CBB5F27864E552C62A4,
   0x4E926CAA623782B154D7534E733E6ED1753B521253168BDD69D05F8A60006DEE,
   0x574F6B2273AF68538FD87F13636260A3552475EA8C6271156DA35BA65E7B8352,
   0x614C9EC478FA87577C27768751F060F6714C66435E4C604D8C0E707063258F89,
   0x5FBD606286D456DE6BC160946167534960E066668D3F79FD4F1A70E96C478BB3,
   0x8BF27ED88364660F5A5A9B426D516DF78C416D3B4F19706B83B7621660D1970D,
   0x8D27797851FB573E57FA673A75787A3D79EF7B957CBF7CC07CC27CC37CC47CC6,
   0x7CC97CCB7CCE7CCF7CD07CD17CD27CD37CD47CD87CDA7CDB7CDD7CDE7CE17CE2,
   0x7CE37CE47CE57CE67CE77CE97CEA7CEB7CEC7CED7CEE7CF07CF17CF27CF37CF4,
   0x7CF57CF67CF77CF97CFA7CFC7CFD7CFE7CFF7D007D017D027D037D047D057D06,
   0x7D077D087D097D0B7D0C7D0D7D0E7D0F7D107D117D127D137D147D157D167D17,
   0x7D187D197D1A7D1B7D1C7D1D7D1E7D1F7D217D237D247D257D267D287D297D2A,
   0x7D2C7D2D7D2E7D307D317D327D337D347D357D36808C99658FF96FC08BA59E21,
   0x59EC7EE97F095409678168D88F917C4D96C653CA602575BE6C7253735AC97EA7,
   0x632451E0810A5DF184DF628051805B634F0E796D524260B86D4E5BC45BC28BA1,
   0x8BB065E25FCC964559937EE77EAA560967B759394F735BB652A0835A988A8D3E,
   0x753294BE50477A3C4EF767B69A7E5AC16B7C76D1575A5C167B3A95F4714E517C,
   0x80A9827059787F04832768C067EC78B1787762E363617B804FED526A51CF8350,
   0x69DB92748DF58D3189C1952E7BAD4EF67D377D387D397D3A7D3B7D3C7D3D7D3E,
   0x7D3F7D407D417D427D437D447D457D467D477D487D497D4A7D4B7D4C7D4D7D4E,
   0x7D4F7D507D517D527D537D547D557D567D577D587D597D5A7D5B7D5C7D5D7D5E,
   0x7D5F7D607D617D627D637D647D657D667D677D687D697D6A7D6B7D6C7D6D7D6F,
   0x7D707D717D727D737D747D757D767D787D797D7A7D7B7D7C7D7D7D7E7D7F7D80,
   0x7D817D827D837D847D857D867D877D887D897D8A7D8B7D8C7D8D7D8E7D8F7D90,
   0x7D917D927D937D947D957D967D977D98506582305251996F6E106E856DA75EFA,
   0x50F559DC5C066D466C5F7586848B686859568BB253209171964D854969127901,
   0x712680F64EA490CA6D479A845A0756BC640594F077EB4FA5811A72E189D2997A,
   0x7F347EDE527F655991758F7F8F8353EB7A9663ED63A5768679F888579636622A,
   0x52AB8282685467706377776B7AED6D017ED389E359D0621285C982A5754C501F,
   0x4ECB75A58BEB5C4A5DFE7B4B65A491D14ECA6D25895F7D2795264EC58C288FDB,
   0x9773664B79818FD170EC6D787D997D9A7D9B7D9C7D9D7D9E7D9F7DA07DA17DA2,
   0x7DA37DA47DA57DA77DA87DA97DAA7DAB7DAC7DAD7DAF7DB07DB17DB27DB37DB4,
   0x7DB57DB67DB77DB87DB97DBA7DBB7DBC7DBD7DBE7DBF7DC07DC17DC27DC37DC4,
   0x7DC57DC67DC77DC87DC97DCA7DCB7DCC7DCD7DCE7DCF7DD07DD17DD27DD37DD4,
   0x7DD57DD67DD77DD87DD97DDA7DDB7DDC7DDD7DDE7DDF7DE07DE17DE27DE37DE4,
   0x7DE57DE67DE77DE87DE97DEA7DEB7DEC7DED7DEE7DEF7DF07DF17DF27DF37DF4,
   0x7DF57DF67DF77DF87DF97DFA5C3D52B283465162830E775B66769CB84EAC60CA,
   0x7CBE7CB37ECF4E958B66666F988897595883656C955C5F8475C997567ADF7ADE,
   0x51C070AF7A9863EA7A767EA0739697ED4E4570784E5D915253A9655165E781FC,
   0x8205548E5C31759A97A062D872D975BD5C459A7983CA5C40548077E94E3E6CAE,
   0x805A62D2636E5DE851778DDD8E1E952F4FF153E560E770AC526763509E435A1F,
   0x5026773753777EE26485652B628963985014723589C951B38BC07EDD574783CC,
   0x94A7519B541B5CFB7DFB7DFC7DFD7DFE7DFF7E007E017E027E037E047E057E06,
   0x7E077E087E097E0A7E0B7E0C7E0D7E0E7E0F7E107E117E127E137E147E157E16,
   0x7E177E187E197E1A7E1B7E1C7E1D7E1E7E1F7E207E217E227E237E247E257E26,
   0x7E277E287E297E2A7E2B7E2C7E2D7E2E7E2F7E307E317E327E337E347E357E36,
   0x7E377E387E397E3A7E3C7E3D7E3E7E3F7E407E427E437E447E457E467E487E49,
   0x7E4A7E4B7E4C7E4D7E4E7E4F7E507E517E527E537E547E557E567E577E587E59,
   0x7E5A7E5B7E5C7E5D4FCA7AE36D5A90E19A8F55805496536154AF5F0063E96977,
   0x51EF6168520A582A52D8574E780D770B5EB761777CE0625B62974EA270958003,
   0x62F770E49760577782DB67EF68F578D5989779D158F354B353EF6E34514B523B,
   0x5BA28BFE80AF554357A660735751542D7A7A60505B5463A762A053E362635BC7,
   0x67AF54ED7A9F82E691775E9388E4593857AE630E8DE880EF57577B774FA95FEB,
   0x5BBD6B3E53217B5072C2684677FF773665F751B54E8F76D45CBF7AA58475594E,
   0x9B4150807E5E7E5F7E607E617E627E637E647E657E667E677E687E697E6A7E6B,
   0x7E6C7E6D7E6E7E6F7E707E717E727E737E747E757E767E777E787E797E7A7E7B,
   0x7E7C7E7D7E7E7E7F7E807E817E837E847E857E867E877E887E897E8A7E8B7E8C,
   0x7E8D7E8E7E8F7E907E917E927E937E947E957E967E977E987E997E9A7E9C7E9D,
   0x7E9E7EAE7EB47EBB7EBC7ED67EE47EEC7EF97F0A7F107F1E7F377F397F3B7F3C,
   0x7F3D7F3E7F3F7F407F417F437F467F477F487F497F4A7F4B7F4C7F4D7F4E7F4F,
   0x7F527F53998861276E8357646606634656F062EC62695ED39614578362C95587,
   0x8721814A8FA3556683B167658D5684DD5A6A680F62E67BEE961151706F9C8C30,
   0x63FD89C861D27F0670C26EE57405699472FC5ECA90CE67176D6A635E52B37262,
   0x80014F6C59E5916A70D96D9D52D24E5096F7956D857E78CA7D2F5121579264C2,
   0x808B7C7B6CEA68F1695E51B7539868A872819ECE7BF172F879BB6F137406674E,
   0x91CC9CA4793C83898354540F68174E3D538952B1783E5386522950884F8B4FD0,
   0x7F567F597F5B7F5C7F5D7F5E7F607F637F647F657F667F677F6B7F6C7F6D7F6F,
   0x7F707F737F757F767F777F787F7A7F7B7F7C7F7D7F7F7F807F827F837F847F85,
   0x7F867F877F887F897F8B7F8D7F8F7F907F917F927F937F957F967F977F987F99,
   0x7F9B7F9C7FA07FA27FA37FA57FA67FA87FA97FAA7FAB7FAC7FAD7FAE7FB17FB3,
   0x7FB47FB57FB67FB77FBA7FBB7FBE7FC07FC27FC37FC47FC67FC77FC87FC97FCB,
   0x7FCD7FCF7FD07FD17FD27FD37FD67FD77FD97FDA7FDB7FDC7FDD7FDE7FE27FE3,
   0x75E27ACB7C926CA596B6529B748354E94FE9805483B28FDE95705EC9601C6D9F,
   0x5E18655B813894FE604B70BC7EC37CAE51C968817CB1826F4E248F8691CF667E,
   0x4EAE8C0564A9804A50DA759771CE5BE58FBD6F664E86648295635ED665995217,
   0x88C270C852A3730E7433679778F797164E3490BB9CDE6DCB51DB8D41541D62CE,
   0x73B283F196F69F8494C34F367F9A51CC707596755CAD988653E64EE46E9C7409,
   0x69B4786B998F7559521876246D4167F3516D9F99804B54997B3C7ABF7FE47FE7,
   0x7FE87FEA7FEB7FEC7FED7FEF7FF27FF47FF57FF67FF77FF87FF97FFA7FFD7FFE,
   0x7FFF8002800780088009800A800E800F80118013801A801B801D801E801F8021,
   0x80238024802B802C802D802E802F8030803280348039803A803C803E80408041,
   0x80448045804780488049804E804F8050805180538055805680578059805B805C,
   0x805D805E805F806080618062806380648065806680678068806B806C806D806E,
   0x806F807080728073807480758076807780788079807A807B807C807D96865784,
   0x62E29647697C5A0464027BD36F0F964B82A6536298855E90708963B35364864F,
   0x9C819E93788C97328DEF8D429E7F6F5E79845F559646622E9A74541594DD4FA3,
   0x65C55C655C617F1586516C2F5F8B73876EE47EFF5CE6631B5B6A6EE653754E71,
   0x63A0756562A18F6E4F264ED16CA67EB68BBA841D87BA7F57903B95237BA99AA1,
   0x88F8843D6D1B9A867EDC59889EBB739B780186829A6C9A82561B541757CB4E70,
   0x9EA653568FC881097792999286EE6EE1851366FC61626F2B807E808180828085,
   0x8088808A808D808E808F8090809180928094809580978099809E80A380A680A7,
   0x80A880AC80B080B380B580B680B880B980BB80C580C780C880C980CA80CB80CF,
   0x80D080D180D280D380D480D580D880DF80E080E280E380E680EE80F580F780F9,
   0x80FB80FE80FF8100810181038104810581078108810B810C811581178119811B,
   0x811C811D811F8120812181228123812481258126812781288129812A812B812D,
   0x812E813081338134813581378139813A813B813C813D813F8C298292832B76F2,
   0x6C135FD983BD732B8305951A6BDB77DB94C6536F830251925E3D8C8C8D384E48,
   0x73AB679A68859176970971646CA177095A9295416BCF7F8E66275BD059B95A9A,
   0x95E895F74EEC840C84996AAC76DF9530731B68A65B5F772F919A97617CDC8FF7,
   0x8C1C5F257C7379D889C56CCC871C5BC65E4268C977207EF55195514D52C95A29,
   0x7F05976282D763CF778485D079D26E3A5E9959998511706D6C1162BF76BF654F,
   0x60AF95FD660E879F9E2394ED540D547D8C2C6478814081418142814381448145,
   0x81478149814D814E814F8152815681578158815B815C815D815E815F81618162,
   0x8163816481668168816A816B816C816F81728173817581768177817881818183,
   0x81848185818681878189818B818C818D818E8190819281938194819581968197,
   0x8199819A819E819F81A081A181A281A481A581A781A981AB81AC81AD81AE81AF,
   0x81B081B181B281B481B581B681B781B881B981BC81BD81BE81BF81C481C581C7,
   0x81C881C981CB81CD81CE81CF81D081D181D281D3647986116A21819C78E86469,
   0x9B5462B9672B83AB58A89ED86CAB6F205BDE964C8C0B725F67D062C772614EA9,
   0x59C66BCD589366AE5E5552DF6155672876EE776672677A4662FF54EA545094A0,
   0x90A35A1C7EB36C164E435976801059485357753796BE56CA63208111607C95F9,
   0x6DD65462998151855AE980FD59AE9713502A6CE55C3C62DF4F60533F817B9006,
   0x6EBA852B62C85E7478BE64B5637B5FF55A18917F9E1F5C3F634F80425B7D556E,
   0x954A954D6D8560A867E072DE51DD5B8181D481D581D681D781D881D981DA81DB,
   0x81DC81DD81DE81DF81E081E181E281E481E581E681E881E981EB81EE81EF81F0,
   0x81F181F281F581F681F781F881F981FA81FD81FF8203820782088209820A820B,
   0x820E820F8211821382158216821782188219821A821D82208224822582268227,
   0x8229822E8232823A823C823D823F8240824182428243824582468248824A824C,
   0x824D824E825082518252825382548255825682578259825B825C825D825E8260,
   0x8261826282638264826582668267826962E76CDE725B626D94AE7EBD81136D53,
   0x519C5F04597452AA6012597366968650759F632A61E67CEF8BFA54E66B279E25,
   0x6BB485D5545550766CA4556A8DB4722C5E156015743662CD6392724C5F986E43,
   0x6D3E65006F5876D878D076FC7554522453DB4E535E9E65C1802A80D6629B5486,
   0x522870AE888D8DD16CE1547880DA57F988F48D54966A914D4F696C9B55B776C6,
   0x783062A870F96F8E5F6D84EC68DA787C7BF781A8670B9E4F636778B0576F7812,
   0x9739627962AB528874356BD7826A826B826C826D82718275827682778278827B,
   0x827C8280828182838285828682878289828C82908293829482958296829A829B,
   0x829E82A082A282A382A782B282B582B682BA82BB82BC82BF82C082C282C382C5,
   0x82C682C982D082D682D982DA82DD82E282E782E882E982EA82EC82ED82EE82F0,
   0x82F282F382F582F682F882FA82FC82FD82FE82FF8300830A830B830D83108312,
   0x8313831683188319831D831E831F83208321832283238324832583268329832A,
   0x832E833083328337833B833D5564813E75B276AE533975DE50FB5C418B6C7BC7,
   0x504F72479A9798D86F0274E27968648777A562FC98918D2B54C180584E52576A,
   0x82F9840D5E7351ED74F68BC45C4F57616CFC98875A4678349B448FEB7C955256,
   0x625194FA4EC68386846183E984B257D467345703666E6D668C3166DD7011671F,
   0x6B3A6816621A59BB4E0351C46F0667D26C8F517668CB59476B6775665D0E8110,
   0x9F5065D7794879419A918D775C824E5E4F01542F5951780C56686C148FC45F03,
   0x6C7D6CE38BAB6390833E833F83418342834483458348834A834B834C834D834E,
   0x835383558356835783588359835D836283708371837283738374837583768379,
   0x837A837E837F8380838183828383838483878388838A838B838C838D838F8390,
   0x839183948395839683978399839A839D839F83A183A283A383A483A583A683A7,
   0x83AC83AD83AE83AF83B583BB83BE83BF83C283C383C483C683C883C983CB83CD,
   0x83CE83D083D183D283D383D583D783D983DA83DB83DE83E283E383E483E683E7,
   0x83E883EB83EC83ED60706D3D72756266948E94C553438FC17B7E4EDF8C264E7E,
   0x9ED494B194B3524D6F5C90636D458C3458115D4C6B206B4967AA545B81547F8C,
   0x589985375F3A62A26A47953965726084686577A74E544FA85DE7979864AC7FD8,
   0x5CED4FCF7A8D520783044E14602F7A8394A64FB54EB279E6743452E482B964D2,
   0x79BD5BDD6C8197528F7B6C22503E537F6E0564CE66746C3060C598778BF75E86,
   0x743C7A7779CB4E1890B174036C4256DA914B6CC58D8B533A86C666F28EAF5C48,
   0x9A716E2083EE83EF83F383F483F583F683F783FA83FB83FC83FE83FF84008402,
   0x8405840784088409840A84108412841384148415841684178419841A841B841E,
   0x841F84208421842284238429842A842B842C842D842E842F8430843284338434,
   0x8435843684378439843A843B843E843F84408441844284438444844584478448,
   0x8449844A844B844C844D844E844F8450845284538454845584568458845D845E,
   0x845F8460846284648465846684678468846A846E846F84708472847484778479,
   0x847B847C53D65A369F8B8DA353BB570898A76743919B6CC9516875CA62F372AC,
   0x5238529D7F3A7094763853749E4A69B7786E96C088D97FA4713671C3518967D3,
   0x74E458E4651856B78BA9997662707ED560F970ED58EC4EC14EBA5FCD97E74EFB,
   0x8BA45203598A7EAB62544ECD65E5620E833884C98363878D71946EB65BB97ED2,
   0x519763C967D480898339881551125B7A59828FB14E736C5D516589258F6F962E,
   0x854A745E951095F06DA682E55F3164926D128428816E9CC3585E8D5B4E0953C1,
   0x847D847E847F848084818483848484858486848A848D848F8490849184928493,
   0x8494849584968498849A849B849D849E849F84A084A284A384A484A584A684A7,
   0x84A884A984AA84AB84AC84AD84AE84B084B184B384B584B684B784BB84BC84BE,
   0x84C084C284C384C584C684C784C884CB84CC84CE84CF84D284D484D584D784D8,
   0x84D984DA84DB84DC84DE84E184E284E484E784E884E984EA84EB84ED84EE84EF,
   0x84F184F284F384F484F584F684F784F884F984FA84FB84FD84FE850085018502,
   0x4F1E6563685155D34E2764149A9A626B5AC2745F82726DA968EE50E7838E7802,
   0x674052396C997EB150BB5565715E7B5B665273CA82EB67495C715220717D886B,
   0x95EA965564C58D6181B355846C5562477F2E58924F2455468D4F664C4E0A5C1A,
   0x88F368A2634E7A0D70E7828D52FA97F65C1154E890B57ECD59628D4A86C7820C,
   0x820D8D6664445C0461516D89793E8BBE78377533547B4F388EAB6DF15A207EC5,
   0x795E6C885BA15A76751A80BE614E6E1758F0751F7525727253477EF385038504,
   0x85058506850785088509850A850B850D850E850F851085128514851585168518,
   0x8519851B851C851D851E852085228523852485258526852785288529852A852D,
   0x852E852F8530853185328533853485358536853E853F85408541854285448545,
   0x85468547854B854C854D854E854F85508551855285538554855585578558855A,
   0x855B855C855D855F85608561856285638565856685678569856A856B856C856D,
   0x856E856F8570857185738575857685778578857C857D857F85808581770176DB,
   0x526980DC57235E08593172EE65BD6E7F8BD75C388671534177F362FE65F64EC0,
   0x98DF86805B9E8BC653F277E24F7F5C4E9A7659CB5F0F793A58EB4E1667FF4E8B,
   0x62ED8A93901D52BF662F55DC566C90024ED54F8D91CA99706C0F5E0260435BA4,
   0x89C68BD56536624B99965B885BFF6388552E53D77626517D852C67A268B36B8A,
   0x62928F9353D482126DD1758F4E668D4E5B70719F85AF669166D97F7287009ECD,
   0x9F205C5E672F8FF06811675F620D7AD658855EB665706F318582858385868588,
   0x8589858A858B858C858D858E8590859185928593859485958596859785988599,
   0x859A859D859E859F85A085A185A285A385A585A685A785A985AB85AC85AD85B1,
   0x85B285B385B485B585B685B885BA85BB85BC85BD85BE85BF85C085C285C385C4,
   0x85C585C685C785C885CA85CB85CC85CD85CE85D185D285D485D685D785D885D9,
   0x85DA85DB85DD85DE85DF85E085E185E285E385E585E685E785E885EA85EB85EC,
   0x85ED85EE85EF85F085F185F285F385F485F585F685F785F860555237800D6454,
   0x887075295E05681362F4971C53CC723D8C016C3477617A0E542E77AC987A821C,
   0x8BF47855671470C165AF64955636601D79C153F84E1D6B7B80865BFA55E356DB,
   0x4F3A4F3C99725DF3677E80386002988290015B8B8BBC8BF5641C825864DE55FD,
   0x82CF91654FD77D20901F7C9F50F358516EAF5BBF8BC980839178849C7B97867D,
   0x968B968F7EE59AD3788E5C817A57904296A7795F5B59635F7B0B84D168AD5506,
   0x7F2974107D2295016240584C4ED65B835979585485F985FA85FC85FD85FE8600,
   0x86018602860386048606860786088609860A860B860C860D860E860F86108612,
   0x861386148615861786188619861A861B861C861D861E861F8620862186228623,
   0x8624862586268628862A862B862C862D862E862F863086318632863386348635,
   0x863686378639863A863B863D863E863F86408641864286438644864586468647,
   0x86488649864A864B864C8652865386558656865786588659865B865C865D865F,
   0x866086618663866486658666866786688669866A736D631E8E4B8E0F80CE82D4,
   0x62AC53F06CF0915E592A60016C70574D644A8D2A762B6EE9575B6A8075F06F6D,
   0x8C2D8C0857666BEF889278B363A253F970AD6C645858642A580268E0819B5510,
   0x7CD650188EBA6DCC8D9F70EB638F6D9B6ED47EE68404684390036DD896768BA8,
   0x5957727985E4817E75BC8A8A68AF52548E22951163D098988E44557C4F5366FF,
   0x568F60D56D9552435C4959296DFB586B7530751C606C82148146631167618FE2,
   0x773A8DF38D3494C15E165385542C70C3866D866F867086728673867486758676,
   0x867786788683868486858686868786888689868E868F86908691869286948696,
   0x869786988699869A869B869E869F86A086A186A286A586A686AB86AD86AE86B2,
   0x86B386B786B886B986BB86BC86BD86BE86BF86C186C286C386C586C886CC86CD,
   0x86D286D386D586D686D786DA86DC86DD86E086E186E286E386E586E686E786E8,
   0x86EA86EB86EC86EF86F586F686F786FA86FB86FC86FD86FF8701870487058706,
   0x870B870C870E870F87108711871487166C405EF7505C4EAD5EAD633A8247901A,
   0x6850916E77B3540C94DC5F647AE5687663457B527EDF75DB507762955934900F,
   0x51F879C37A8156FE5F9290146D825C60571F541051546E4D56E263A89893817F,
   0x8715892A9000541E5C6F81C062D6625881319E3596409A6E9A7C692D59A562D3,
   0x553E631654C786D96D3C5A0374E6889C6B6A59168C4C5F2F6E7E73A9987D4E38,
   0x70F75B8C7897633D665A769660CB5B9B5A494E0781556C6A738B4EA167897F51,
   0x5F8065FA671B5FD859845A018719871B871D871F87208724872687278728872A,
   0x872B872C872D872F8730873287338735873687388739873A873C873D87408741,
   0x87428743874487458746874A874B874D874F8750875187528754875587568758,
   0x875A875B875C875D875E875F876187628766876787688769876A876B876C876D,
   0x876F8771877287738775877787788779877A877F878087818784878687878789,
   0x878A878C878E878F87908791879287948795879687988799879A879B879C879D,
   0x879E87A087A187A287A387A45DCD5FAE537197E68FDD684556F4552F60DF4E3A,
   0x6F4D7EF482C7840E59D44F1F4F2A5C3E7EAC672A851A5473754F80C355829B4F,
   0x4F4D6E2D8C135C096170536B761F6E29868A658795FB7EB9543B7A337D0A95EE,
   0x55E17FC174EE631D87176DA17A9D621165A1536763E16C835DEB545C94A84E4C,
   0x6C618BEC5C4B65E0829C68A7543E54346BCB6B664E9463425348821E4F0D4FAE,
   0x575E620A96FE6664726952FF52A1609F8BEF661471996790897F785277FD6670,
   0x563B54389521727A87A587A687A787A987AA87AE87B087B187B287B487B687B7,
   0x87B887B987BB87BC87BE87BF87C187C287C387C487C587C787C887C987CC87CD,
   0x87CE87CF87D087D487D587D687D787D887D987DA87DC87DD87DE87DF87E187E2,
   0x87E387E487E687E787E887E987EB87EC87ED87EF87F087F187F287F387F487F5,
   0x87F687F787F887FA87FB87FC87FD87FF88008801880288048805880688078808,
   0x8809880B880C880D880E880F8810881188128814881788188819881A881C881D,
   0x881E881F882088237A00606F5E0C6089819D591560DC718470EF6EAA6C507280,
   0x6A8488AD5E2D4E605AB3559C94E36D177CFB9699620F7EC6778E867E5323971E,
   0x8F9666875CE14FA072ED4E0B53A6590F54136380952851484ED99C9C7EA454B8,
   0x8D248854823795F26D8E5F265ACC663E966973B0732E53BF817A99857FA15BAA,
   0x967796507EBF76F853A2957699997BB189446E584E617FD479658BE660F354CD,
   0x4EAB98795DF76A6150CF54118C618427785D9704524A54EE56A395006D885BB5,
   0x6DC66653882488258826882788288829882A882B882C882D882E882F88308831,
   0x883388348835883688378838883A883B883D883E883F88418842884388468847,
   0x88488849884A884B884E884F8850885188528853885588568858885A885B885C,
   0x885D885E885F886088668867886A886D886F8871887388748875887688788879,
   0x887A887B887C88808883888688878889888A888C888E888F8890889188938894,
   0x8895889788988899889A889B889D889E889F88A088A188A388A588A688A788A8,
   0x88A988AA5C0F5B5D6821809655787B11654869544E9B6B47874E978B534F631F,
   0x643A90AA659C80C18C10519968B0537887F961C86CC46CFB8C225C5185AA82AF,
   0x950C6B238F9B65B05FFB5FC34FE18845661F8165732960FA51745211578B5F62,
   0x90A2884C91925E78674F602759D3514451F680F853086C7996C4718A4F114FEE,
   0x7F9E673D55C5950879C088967EE3589F620C9700865A5618987B5F908BB884C4,
   0x915753D965ED5E8F755C60647D6E5A7F7EEA7EED8F6955A75BA360AC65CB7384,
   0x88AC88AE88AF88B088B288B388B488B588B688B888B988BA88BB88BD88BE88BF,
   0x88C088C388C488C788C888CA88CB88CC88CD88CF88D088D188D388D688D788DA,
   0x88DB88DC88DD88DE88E088E188E688E788E988EA88EB88EC88ED88EE88EF88F2,
   0x88F588F688F788FA88FB88FD88FF890089018903890489058906890789088909,
   0x890B890C890D890E890F891189148915891689178918891C891D891E891F8920,
   0x8922892389248926892789288929892C892D892E892F89318932893389358937,
   0x9009766377297EDA9774859B5B667A7496EA884052CB718F5FAA65EC8BE25BFB,
   0x9A6F5DE16B896C5B8BAD8BAF900A8FC5538B62BC9E269E2D54404E2B82BD7259,
   0x869C5D1688596DAF96C554D14E9A8BB6710954BD960970DF6DF976D04E257814,
   0x87125CA95EF68A00989C960E708E6CBF594463A9773C884D6F148273583071D5,
   0x538C781A96C155015F6671305BB48C1A9A8C6B83592E9E2F79E76768626C4F6F,
   0x75A17F8A6D0B96336C274EF075D2517B68376F3E908081705996747689388939,
   0x893A893B893C893D893E893F89408942894389458946894789488949894A894B,
   0x894C894D894E894F8950895189528953895489558956895789588959895A895B,
   0x895C895D896089618962896389648965896789688969896A896B896C896D896E,
   0x896F8970897189728973897489758976897789788979897A897C897D897E8980,
   0x898289848985898789888989898A898B898C898D898E898F8990899189928993,
   0x899489958996899789988999899A899B899C899D899E899F89A089A164475C27,
   0x90657A918C2359DA54AC8200836F898180006930564E8036723791CE51B64E5F,
   0x987563964E1A53F666F3814B591C6DB24E0058F9533B63D694F14F9D4F0A8863,
   0x98905937905779FB4EEA80F075916C825B9C59E85F5D69058681501A5DF24E59,
   0x77E34EE5827A6291661390915C794EBF5F7981C69038808475AB4EA688D4610F,
   0x6BC55FC64E4976CA6EA28BE38BAE8C0A8BD15F027FFC7FCC7ECE8335836B56E0,
   0x6BB797F3963459FB541F94F66DEB5BC5996E5C395F15969089A289A389A489A5,
   0x89A689A789A889A989AA89AB89AC89AD89AE89AF89B089B189B289B389B489B5,
   0x89B689B789B889B989BA89BB89BC89BD89BE89BF89C089C389CD89D389D489D5,
   0x89D789D889D989DB89DD89DF89E089E189E289E489E789E889E989EA89EC89ED,
   0x89EE89F089F189F289F489F589F689F789F889F989FA89FB89FC89FD89FE89FF,
   0x8A018A028A038A048A058A068A088A098A0A8A0B8A0C8A0D8A0E8A0F8A108A11,
   0x8A128A138A148A158A168A178A188A198A1A8A1B8A1C8A1D537082F16A315A74,
   0x9E705E947F2883B984248425836787478FCE8D6276C85F719896786C662054DF,
   0x62E54F6381C375C85EB896CD8E0A86F9548F6CF36D8C6C38607F52C775285E7D,
   0x4F1860A05FE75C24753190AE94C072B96CB96E389149670953CB53F34F5191C9,
   0x8BF153C85E7C8FC26DE44E8E76C26986865E611A82064F594FDE903E9C7C6109,
   0x6E1D6E1496854E885A3196E84E0E5C7F79B95B878BED7FBD738957DF828B90C1,
   0x5401904755BB5CEA5FA161086B3272F180B28A898A1E8A1F8A208A218A228A23,
   0x8A248A258A268A278A288A298A2A8A2B8A2C8A2D8A2E8A2F8A308A318A328A33,
   0x8A348A358A368A378A388A398A3A8A3B8A3C8A3D8A3F8A408A418A428A438A44,
   0x8A458A468A478A498A4A8A4B8A4C8A4D8A4E8A4F8A508A518A528A538A548A55,
   0x8A568A578A588A598A5A8A5B8A5C8A5D8A5E8A5F8A608A618A628A638A648A65,
   0x8A668A678A688A698A6A8A6B8A6C8A6D8A6E8A6F8A708A718A728A738A748A75,
   0x8A768A778A788A7A8A7B8A7C8A7D8A7E8A7F8A806D745BD388D598848C6B9A6D,
   0x9E336E0A51A4514357A38881539F63F48F9556ED54585706733F6E907F188FDC,
   0x82D1613F6028966266F07EA68D8A8DC394A55CB37CA4670860A6960580184E91,
   0x90E75300966851418FD08574915D665597F55B55531D78386742683D54C9707E,
   0x5BB08F7D518D572854B1651266828D5E8D43810F846C906D7CDF51FF85FB67A3,
   0x65E96FA186A48E81566A90207682707671E58D2362E952196CFD8D3C600E589E,
   0x618E66FE8D60624E55B36E23672D8F678A818A828A838A848A858A868A878A88,
   0x8A8B8A8C8A8D8A8E8A8F8A908A918A928A948A958A968A978A988A998A9A8A9B,
   0x8A9C8A9D8A9E8A9F8AA08AA18AA28AA38AA48AA58AA68AA78AA88AA98AAA8AAB,
   0x8AAC8AAD8AAE8AAF8AB08AB18AB28AB38AB48AB58AB68AB78AB88AB98ABA8ABB,
   0x8ABC8ABD8ABE8ABF8AC08AC18AC28AC38AC48AC58AC68AC78AC88AC98ACA8ACB,
   0x8ACC8ACD8ACE8ACF8AD08AD18AD28AD38AD48AD58AD68AD78AD88AD98ADA8ADB,
   0x8ADC8ADD8ADE8ADF8AE08AE18AE28AE394E195F87728680569A8548B4E4D70B8,
   0x8BC86458658B5B857A84503A5BE877BB6BE18A797C986CBE76CF65A98F975D2D,
   0x5C5586386808536062187AD96E5B7EFD6A1F7AE05F706F335F20638C6DA86756,
   0x4E085E108D264ED780C07634969C62DB662D627E6CBC8D7571677F6951468087,
   0x53EC906E629854F286F08F998005951785178FD96D5973CD659F771F75047827,
   0x81FB8D1E94884FA6679575B98BCA9707632F9547963584B8632377415F8172F0,
   0x4E896014657462EF6B63653F8AE48AE58AE68AE78AE88AE98AEA8AEB8AEC8AED,
   0x8AEE8AEF8AF08AF18AF28AF38AF48AF58AF68AF78AF88AF98AFA8AFB8AFC8AFD,
   0x8AFE8AFF8B008B018B028B038B048B058B068B088B098B0A8B0B8B0C8B0D8B0E,
   0x8B0F8B108B118B128B138B148B158B168B178B188B198B1A8B1B8B1C8B1D8B1E,
   0x8B1F8B208B218B228B238B248B258B278B288B298B2A8B2B8B2C8B2D8B2E8B2F,
   0x8B308B318B328B338B348B358B368B378B388B398B3A8B3B8B3C8B3D8B3E8B3F,
   0x8B408B418B428B438B448B455E2775C790D18BC1829D679D652F5431871877E5,
   0x80A281026C414E4B7EC7804C76F4690D6B966267503C4F84574063076B628DBE,
   0x53EA65E87EB85FD7631A63B781F381F47F6E5E1C5CD95236667A79E97A1A8D28,
   0x709975D46EDE6CBB7A924E2D76C55FE0949F88777EC879CD80BF91CD4EF24F17,
   0x821F54685DDE6D328BCC7CA58F7480985E1A549276B15B99663C9AA473E0682A,
   0x86DB6731732A8BF88BDB90107AF970DB716E62C477A956314E3B845767F152A9,
   0x86C08D2E94F87B518B468B478B488B498B4A8B4B8B4C8B4D8B4E8B4F8B508B51,
   0x8B528B538B548B558B568B578B588B598B5A8B5B8B5C8B5D8B5E8B5F8B608B61,
   0x8B628B638B648B658B678B688B698B6A8B6B8B6D8B6E8B6F8B708B718B728B73,
   0x8B748B758B768B778B788B798B7A8B7B8B7C8B7D8B7E8B7F8B808B818B828B83,
   0x8B848B858B868B878B888B898B8A8B8B8B8C8B8D8B8E8B8F8B908B918B928B93,
   0x8B948B958B968B978B988B998B9A8B9B8B9C8B9D8B9E8B9F8BAC8BB18BBB8BC7,
   0x8BD08BEA8C098C1E4F4F6CE8795D9A7B6293722A62FD4E1378168F6C64B08D5A,
   0x7BC668695E8488C55986649E58EE72B6690E95258FFD8D5857607F008C0651C6,
   0x634962D95353684C74228301914C55447740707C6D4A517954A88D4459FF6ECB,
   0x6DC45B5C7D2B4ED47C7D6ED35B5081EA6E0D5B579B0368D58E2A5B977EFC603B,
   0x7EB590B98D70594F63CD79DF8DB3535265CF79568BC5963B7EC494BB7E825634,
   0x918967007F6A5C0A907566285DE64F5067DE505A4F5C57505EA7E810E811E812,
   0xE813E8148C388C398C3A8C3B8C3C8C3D8C3E8C3F8C408C428C438C448C458C48,
   0x8C4A8C4B8C4D8C4E8C4F8C508C518C528C538C548C568C578C588C598C5B8C5C,
   0x8C5D8C5E8C5F8C608C638C648C658C668C678C688C698C6C8C6D8C6E8C6F8C70,
   0x8C718C728C748C758C768C778C7B8C7C8C7D8C7E8C7F8C808C818C838C848C86,
   0x8C878C888C8B8C8D8C8E8C8F8C908C918C928C938C958C968C978C998C9A8C9B,
   0x8C9C8C9D8C9E8C9F8CA08CA18CA28CA38CA48CA58CA68CA78CA88CA98CAA8CAB,
   0x8CAC8CAD4E8D4E0C51404E105EFF53454E154E984E1E9B325B6C56694E2879BA,
   0x4E3F53154E47592D723B536E6C1056DF80E499976BD3777E9F174E364E9F9F10,
   0x4E5C4E694E9382885B5B556C560F4EC4538D539D53A353A553AE97658D5D531A,
   0x53F55326532E533E8D5C5366536352025208520E522D5233523F5240524C525E,
   0x5261525C84AF527D528252815290529351827F544EBB4EC34EC94EC24EE84EE1,
   0x4EEB4EDE4F1B4EF34F224F644EF54F254F274F094F2B4F5E4F6765384F5A4F5D,
   0x8CAE8CAF8CB08CB18CB28CB38CB48CB58CB68CB78CB88CB98CBA8CBB8CBC8CBD,
   0x8CBE8CBF8CC08CC18CC28CC38CC48CC58CC68CC78CC88CC98CCA8CCB8CCC8CCD,
   0x8CCE8CCF8CD08CD18CD28CD38CD48CD58CD68CD78CD88CD98CDA8CDB8CDC8CDD,
   0x8CDE8CDF8CE08CE18CE28CE38CE48CE58CE68CE78CE88CE98CEA8CEB8CEC8CED,
   0x8CEE8CEF8CF08CF18CF28CF38CF48CF58CF68CF78CF88CF98CFA8CFB8CFC8CFD,
   0x8CFE8CFF8D008D018D028D038D048D058D068D078D088D098D0A8D0B8D0C8D0D,
   0x4F5F4F574F324F3D4F764F744F914F894F834F8F4F7E4F7B4FAA4F7C4FAC4F94,
   0x4FE64FE84FEA4FC54FDA4FE34FDC4FD14FDF4FF85029504C4FF3502C500F502E,
   0x502D4FFE501C500C50255028507E504350555048504E506C507B50A550A750A9,
   0x50BA50D6510650ED50EC50E650EE5107510B4EDD6C3D4F584F654FCE9FA06C46,
   0x7C74516E5DFD9EC999985181591452F9530D8A07531051EB591951554EA05156,
   0x4EB3886E88A44EB5811488D279805B3488037FB851AB51B151BD51BC8D0E8D0F,
   0x8D108D118D128D138D148D158D168D178D188D198D1A8D1B8D1C8D208D518D52,
   0x8D578D5F8D658D688D698D6A8D6C8D6E8D6F8D718D728D788D798D7A8D7B8D7C,
   0x8D7D8D7E8D7F8D808D828D838D868D878D888D898D8C8D8D8D8E8D8F8D908D92,
   0x8D938D958D968D978D988D998D9A8D9B8D9C8D9D8D9E8DA08DA18DA28DA48DA5,
   0x8DA68DA78DA88DA98DAA8DAB8DAC8DAD8DAE8DAF8DB08DB28DB68DB78DB98DBB,
   0x8DBD8DC08DC18DC28DC58DC78DC88DC98DCA8DCD8DD08DD28DD38DD451C75196,
   0x51A251A58BA08BA68BA78BAA8BB48BB58BB78BC28BC38BCB8BCF8BCE8BD28BD3,
   0x8BD48BD68BD88BD98BDC8BDF8BE08BE48BE88BE98BEE8BF08BF38BF68BF98BFC,
   0x8BFF8C008C028C048C078C0C8C0F8C118C128C148C158C168C198C1B8C188C1D,
   0x8C1F8C208C218C258C278C2A8C2B8C2E8C2F8C328C338C358C365369537A961D,
   0x962296219631962A963D963C964296499654965F9667966C967296749688968D,
   0x969796B09097909B909D909990AC90A190B490B390B690BA8DD58DD88DD98DDC,
   0x8DE08DE18DE28DE58DE68DE78DE98DED8DEE8DF08DF18DF28DF48DF68DFC8DFE,
   0x8DFF8E008E018E028E038E048E068E078E088E0B8E0D8E0E8E108E118E128E13,
   0x8E158E168E178E188E198E1A8E1B8E1C8E208E218E248E258E268E278E288E2B,
   0x8E2D8E308E328E338E348E368E378E388E3B8E3C8E3E8E3F8E438E458E468E4C,
   0x8E4D8E4E8E4F8E508E538E548E558E568E578E588E5A8E5B8E5C8E5D8E5E8E5F,
   0x8E608E618E628E638E648E658E678E688E6A8E6B8E6E8E7190B890B090CF90C5,
   0x90BE90D090C490C790D390E690E290DC90D790DB90EB90EF90FE91049122911E,
   0x91239131912F913991439146520D594252A252AC52AD52BE54FF52D052D652F0,
   0x53DF71EE77CD5EF451F551FC9B2F53B65F01755A5DEF574C57A957A1587E58BC,
   0x58C558D15729572C572A57335739572E572F575C573B574257695785576B5786,
   0x577C577B5768576D5776577357AD57A4578C57B257CF57A757B4579357A057D5,
   0x57D857DA57D957D257B857F457EF57F857E457DD8E738E758E778E788E798E7A,
   0x8E7B8E7D8E7E8E808E828E838E848E868E888E898E8A8E8B8E8C8E8D8E8E8E91,
   0x8E928E938E958E968E978E988E998E9A8E9B8E9D8E9F8EA08EA18EA28EA38EA4,
   0x8EA58EA68EA78EA88EA98EAA8EAD8EAE8EB08EB18EB38EB48EB58EB68EB78EB8,
   0x8EB98EBB8EBC8EBD8EBE8EBF8EC08EC18EC28EC38EC48EC58EC68EC78EC88EC9,
   0x8ECA8ECB8ECC8ECD8ECF8ED08ED18ED28ED38ED48ED58ED68ED78ED88ED98EDA,
   0x8EDB8EDC8EDD8EDE8EDF8EE08EE18EE28EE38EE4580B580D57FD57ED5800581E,
   0x5819584458205865586C58815889589A588099A89F1961FF8279827D827F828F,
   0x828A82A88284828E82918297829982AB82B882BE82B082C882CA82E3829882B7,
   0x82AE82CB82CC82C182A982B482A182AA829F82C482CE82A482E1830982F782E4,
   0x830F830782DC82F482D282D8830C82FB82D38311831A83068314831582E082D5,
   0x831C8351835B835C83088392833C83348331839B835E832F834F83478343835F,
   0x834083178360832D833A8333836683658EE58EE68EE78EE88EE98EEA8EEB8EEC,
   0x8EED8EEE8EEF8EF08EF18EF28EF38EF48EF58EF68EF78EF88EF98EFA8EFB8EFC,
   0x8EFD8EFE8EFF8F008F018F028F038F048F058F068F078F088F098F0A8F0B8F0C,
   0x8F0D8F0E8F0F8F108F118F128F138F148F158F168F178F188F198F1A8F1B8F1C,
   0x8F1D8F1E8F1F8F208F218F228F238F248F258F268F278F288F298F2A8F2B8F2C,
   0x8F2D8F2E8F2F8F308F318F328F338F348F358F368F378F388F398F3A8F3B8F3C,
   0x8F3D8F3E8F3F8F408F418F428F438F448368831B8369836C836A836D836E83B0,
   0x837883B383B483A083AA8393839C8385837C83B683A9837D83B8837B8398839E,
   0x83A883BA83BC83C1840183E583D858078418840B83DD83FD83D6841C84388411,
   0x840683D483DF840F840383F883F983EA83C583C0842683F083E1845C8451845A,
   0x8459847384878488847A84898478843C844684698476848C848E8431846D84C1,
   0x84CD84D084E684BD84D384CA84BF84BA84E084A184B984B4849784E584E3850C,
   0x750D853884F08539851F853A8F458F468F478F488F498F4A8F4B8F4C8F4D8F4E,
   0x8F4F8F508F518F528F538F548F558F568F578F588F598F5A8F5B8F5C8F5D8F5E,
   0x8F5F8F608F618F628F638F648F658F6A8F808F8C8F928F9D8FA08FA18FA28FA4,
   0x8FA58FA68FA78FAA8FAC8FAD8FAE8FAF8FB28FB38FB48FB58FB78FB88FBA8FBB,
   0x8FBC8FBF8FC08FC38FC68FC98FCA8FCB8FCC8FCD8FCF8FD28FD68FD78FDA8FE0,
   0x8FE18FE38FE78FEC8FEF8FF18FF28FF48FF58FF68FFA8FFB8FFC8FFE8FFF9007,
   0x9008900C900E9013901590188556853B84FF84FC8559854885688564855E857A,
   0x77A285438572857B85A485A88587858F857985AE859C858585B985B785B085D3,
   0x85C185DC85FF8627860586298616863C5EFE5F08593C594180375955595A5958,
   0x530F5C225C255C2C5C34624C626A629F62BB62CA62DA62D762EE632262F66339,
   0x634B634363AD63F66371637A638E63B4636D63AC638A636963AE63BC63F263F8,
   0x63E063FF63C463DE63CE645263C663BE64456441640B641B6420640C64266421,
   0x645E6484646D64969019901C902390249025902790289029902A902B902C9030,
   0x903190329033903490379039903A903D903F904090439045904690489049904A,
   0x904B904C904E9054905590569059905A905C905D905E905F9060906190649066,
   0x90679069906A906B906C906F90709071907290739076907790789079907A907B,
   0x907C907E908190849085908690879089908A908C908D908E908F909090929094,
   0x90969098909A909C909E909F90A090A490A590A790A890A990AB90AD90B290B7,
   0x90BC90BD90BF90C0647A64B764B8649964BA64C064D064D764E464E265096525,
   0x652E5F0B5FD275195F11535F53F153FD53E953E853FB541254165406544B5452,
   0x54535454545654435421545754595423543254825494547754715464549A549B,
   0x548454765466549D54D054AD54C254B454D254A754A654D354D4547254A354D5,
   0x54BB54BF54CC54D954DA54DC54A954AA54A454DD54CF54DE551B54E7552054FD,
   0x551454F355225523550F55115527552A5567558F55B55549556D55415555553F,
   0x5550553C90C290C390C690C890C990CB90CC90CD90D290D490D590D690D890D9,
   0x90DA90DE90DF90E090E390E490E590E990EA90EC90EE90F090F190F290F390F5,
   0x90F690F790F990FA90FB90FC90FF91009101910391059106910791089109910A,
   0x910B910C910D910E910F911091119112911391149115911691179118911A911B,
   0x911C911D911F91209121912491259126912791289129912A912B912C912D912E,
   0x91309132913391349135913691379138913A913B913C913D913E913F91409141,
   0x914291445537555655755576557755335530555C558B55D2558355B155B95588,
   0x5581559F557E55D65591557B55DF55BD55BE5594559955EA55F755C9561F55D1,
   0x55EB55EC55D455E655DD55C455EF55E555F255F355CC55CD55E855F555E48F94,
   0x561E5608560C56015624562355FE56005627562D565856395657562C564D5662,
   0x5659565C564C5654568656645671566B567B567C5685569356AF56D456D756DD,
   0x56E156F556EB56F956FF5704570A5709571C5E0F5E195E145E115E315E3B5E3C,
   0x9145914791489151915391549155915691589159915B915C915F916091669167,
   0x9168916B916D9173917A917B917C9180918191829183918491869188918A918E,
   0x918F9193919491959196919791989199919C919D919E919F91A091A191A491A5,
   0x91A691A791A891A991AB91AC91B091B191B291B391B691B791B891B991BB91BC,
   0x91BD91BE91BF91C091C191C291C391C491C591C691C891CB91D091D291D391D4,
   0x91D591D691D791D891D991DA91DB91DD91DE91DF91E091E191E291E391E491E5,
   0x5E375E445E545E5B5E5E5E615C8C5C7A5C8D5C905C965C885C985C995C915C9A,
   0x5C9C5CB55CA25CBD5CAC5CAB5CB15CA35CC15CB75CC45CD25CE45CCB5CE55D02,
   0x5D035D275D265D2E5D245D1E5D065D1B5D585D3E5D345D3D5D6C5D5B5D6F5D5D,
   0x5D6B5D4B5D4A5D695D745D825D995D9D8C735DB75DC55F735F775F825F875F89,
   0x5F8C5F955F995F9C5FA85FAD5FB55FBC88625F6172AD72B072B472B772B872C3,
   0x72C172CE72CD72D272E872EF72E972F272F472F7730172F3730372FA91E691E7,
   0x91E891E991EA91EB91EC91ED91EE91EF91F091F191F291F391F491F591F691F7,
   0x91F891F991FA91FB91FC91FD91FE91FF92009201920292039204920592069207,
   0x92089209920A920B920C920D920E920F92109211921292139214921592169217,
   0x92189219921A921B921C921D921E921F92209221922292239224922592269227,
   0x92289229922A922B922C922D922E922F92309231923292339234923592369237,
   0x92389239923A923B923C923D923E923F92409241924292439244924572FB7317,
   0x73137321730A731E731D7315732273397325732C733873317350734D73577360,
   0x736C736F737E821B592598E7592459029963996799689969996A996B996C9974,
   0x9977997D998099849987998A998D999099919993999499955E805E915E8B5E96,
   0x5EA55EA05EB95EB55EBE5EB38D535ED25ED15EDB5EE85EEA81BA5FC45FC95FD6,
   0x5FCF60035FEE60045FE15FE45FFE600560065FEA5FED5FF8601960356026601B,
   0x600F600D6029602B600A603F602160786079607B607A60429246924792489249,
   0x924A924B924C924D924E924F9250925192529253925492559256925792589259,
   0x925A925B925C925D925E925F9260926192629263926492659266926792689269,
   0x926A926B926C926D926E926F927092719272927392759276927792789279927A,
   0x927B927C927D927E927F9280928192829283928492859286928792889289928A,
   0x928B928C928D928F9290929192929293929492959296929792989299929A929B,
   0x929C929D929E929F92A092A192A292A392A492A592A692A7606A607D6096609A,
   0x60AD609D60836092608C609B60EC60BB60B160DD60D860C660DA60B461206126,
   0x6115612360F46100610E612B614A617561AC619461A761B761D461F55FDD96B3,
   0x95E995EB95F195F395F595F695FC95FE9603960496069608960A960B960C960D,
   0x960F96129615961696179619961A4E2C723F62156C356C546C5C6C4A6CA36C85,
   0x6C906C946C8C6C686C696C746C766C866CA96CD06CD46CAD6CF76CF86CF16CD7,
   0x6CB26CE06CD66CFA6CEB6CEE6CB16CD36CEF6CFE92A892A992AA92AB92AC92AD,
   0x92AF92B092B192B292B392B492B592B692B792B892B992BA92BB92BC92BD92BE,
   0x92BF92C092C192C292C392C492C592C692C792C992CA92CB92CC92CD92CE92CF,
   0x92D092D192D292D392D492D592D692D792D892D992DA92DB92DC92DD92DE92DF,
   0x92E092E192E292E392E492E592E692E792E892E992EA92EB92EC92ED92EE92EF,
   0x92F092F192F292F392F492F592F692F792F892F992FA92FB92FC92FD92FE92FF,
   0x93009301930293039304930593069307930893096D396D276D0C6D436D486D07,
   0x6D046D196D0E6D2B6D4D6D2E6D356D1A6D4F6D526D546D336D916D6F6D9E6DA0,
   0x6D5E6D936D946D5C6D606D7C6D636E1A6DC76DC56DDE6E0E6DBF6DE06E116DE6,
   0x6DDD6DD96E166DAB6E0C6DAE6E2B6E6E6E4E6E6B6EB26E5F6E866E536E546E32,
   0x6E256E446EDF6EB16E986EE06F2D6EE26EA56EA76EBD6EBB6EB76ED76EB46ECF,
   0x6E8F6EC26E9F6F626F466F476F246F156EF96F2F6F366F4B6F746F2A6F096F29,
   0x6F896F8D6F8C6F786F726F7C6F7A6FD1930A930B930C930D930E930F93109311,
   0x93129313931493159316931793189319931A931B931C931D931E931F93209321,
   0x93229323932493259326932793289329932A932B932C932D932E932F93309331,
   0x93329333933493359336933793389339933A933B933C933D933F934093419342,
   0x9343934493459346934793489349934A934B934C934D934E934F935093519352,
   0x9353935493559356935793589359935A935B935C935D935E935F936093619362,
   0x9363936493659366936793689369936B6FC96FA76FB96FB66FC26FE16FEE6FDE,
   0x6FE06FEF701A7023701B70397035704F705E5B805B845B955B935BA55BB8752F,
   0x9A9E64345BE45BEE89305BF08E478B078FB68FD38FD58FE58FEE8FE48FE98FE6,
   0x8FF38FE890059004900B90269011900D9016902190359036902D902F90449051,
   0x90529050906890589062905B66B99074907D908290889083908B5F505F575F56,
   0x5F585C3B54AB5C505C595B715C635C667FBC5F2A5F295F2D82745F3C9B3B5C6E,
   0x59815983598D59A959AA59A3936C936D936E936F937093719372937393749375,
   0x9376937793789379937A937B937C937D937E937F938093819382938393849385,
   0x9386938793889389938A938B938C938D938E9390939193929393939493959396,
   0x939793989399939A939B939C939D939E939F93A093A193A293A393A493A593A6,
   0x93A793A893A993AA93AB93AC93AD93AE93AF93B093B193B293B393B493B593B6,
   0x93B793B893B993BA93BB93BC93BD93BE93BF93C093C193C293C393C493C593C6,
   0x93C793C893C993CB93CC93CD599759CA59AB599E59A459D259B259AF59D759BE,
   0x5A055A0659DD5A0859E359D859F95A0C5A095A325A345A115A235A135A405A67,
   0x5A4A5A555A3C5A625A7580EC5AAA5A9B5A775A7A5ABE5AEB5AB25AD25AD45AB8,
   0x5AE05AE35AF15AD65AE65AD85ADC5B095B175B165B325B375B405C155C1C5B5A,
   0x5B655B735B515B535B629A759A779A789A7A9A7F9A7D9A809A819A859A889A8A,
   0x9A909A929A939A969A989A9B9A9C9A9D9A9F9AA09AA29AA39AA59AA77E9F7EA1,
   0x7EA37EA57EA87EA993CE93CF93D093D193D293D393D493D593D793D893D993DA,
   0x93DB93DC93DD93DE93DF93E093E193E293E393E493E593E693E793E893E993EA,
   0x93EB93EC93ED93EE93EF93F093F193F293F393F493F593F693F793F893F993FA,
   0x93FB93FC93FD93FE93FF9400940194029403940494059406940794089409940A,
   0x940B940C940D940E940F9410941194129413941494159416941794189419941A,
   0x941B941C941D941E941F9420942194229423942494259426942794289429942A,
   0x942B942C942D942E7EAD7EB07EBE7EC07EC17EC27EC97ECB7ECC7ED07ED47ED7,
   0x7EDB7EE07EE17EE87EEB7EEE7EEF7EF17EF27F0D7EF67EFA7EFB7EFE7F017F02,
   0x7F037F077F087F0B7F0C7F0F7F117F127F177F197F1C7F1B7F1F7F217F227F23,
   0x7F247F257F267F277F2A7F2B7F2C7F2D7F2F7F307F317F327F337F355E7A757F,
   0x5DDB753E9095738E739173AE73A2739F73CF73C273D173B773B373C073C973C8,
   0x73E573D9987C740A73E973E773DE73BA73F2740F742A745B7426742574287430,
   0x742E742C942F9430943194329433943494359436943794389439943A943B943C,
   0x943D943F9440944194429443944494459446944794489449944A944B944C944D,
   0x944E944F9450945194529453945494559456945794589459945A945B945C945D,
   0x945E945F9460946194629463946494659466946794689469946A946C946D946E,
   0x946F9470947194729473947494759476947794789479947A947B947C947D947E,
   0x947F9480948194829483948494919496949894C794CF94D394D494DA94E694FB,
   0x951C9520741B741A7441745C7457745574597477746D747E749C748E74807481,
   0x7487748B749E74A874A9749074A774D274BA97EA97EB97EC674C6753675E6748,
   0x676967A56787676A6773679867A7677567A8679E67AD678B6777677C67F06809,
   0x67D8680A67E967B0680C67D967B567DA67B367DD680067C367B867E2680E67C1,
   0x67FD6832683368606861684E6862684468646883681D68556866684168676840,
   0x683E684A6849682968B5688F687468776893686B68C2696E68FC691F692068F9,
   0x95279533953D95439548954B9555955A9560956E95749575957795789579957A,
   0x957B957C957D957E9580958195829583958495859586958795889589958A958B,
   0x958C958D958E958F9590959195929593959495959596959795989599959A959B,
   0x959C959D959E959F95A095A195A295A395A495A595A695A795A895A995AA95AB,
   0x95AC95AD95AE95AF95B095B195B295B395B495B595B695B795B895B995BA95BB,
   0x95BC95BD95BE95BF95C095C195C295C395C495C595C695C795C895C995CA95CB,
   0x692468F0690B6901695768E369106971693969606942695D6984696B69806998,
   0x6978693469CC6987698869CE6989696669636979699B69A769BB69AB69AD69D4,
   0x69B169C169CA69DF699569E0698D69FF6A2F69ED6A176A186A6569F26A446A3E,
   0x6AA06A506A5B6A356A8E6A796A3D6A286A586A7C6A916A906AA96A976AAB7337,
   0x73526B816B826B876B846B926B936B8D6B9A6B9B6BA16BAA8F6B8F6D8F718F72,
   0x8F738F758F768F788F778F798F7A8F7C8F7E8F818F828F848F878F8B95CC95CD,
   0x95CE95CF95D095D195D295D395D495D595D695D795D895D995DA95DB95DC95DD,
   0x95DE95DF95E095E195E295E395E495E595E695E795EC95FF960796139618961B,
   0x961E96209623962496259626962796289629962B962C962D962F963096379638,
   0x9639963A963E96419643964A964E964F9651965296539656965796589659965A,
   0x965C965D965E9660966396659666966B966D966E966F96709671967396789679,
   0x967A967B967C967D967E967F9680968196829683968496879689968A8F8D8F8E,
   0x8F8F8F988F9A8ECE620B6217621B621F6222622162256224622C81E774EF74F4,
   0x74FF750F75117513653465EE65EF65F0660A66196772660366156600708566F7,
   0x661D66346631663666358006665F66546641664F66566661665766776684668C,
   0x66A7669D66BE66DB66DC66E666E98D328D338D368D3B8D3D8D408D458D468D48,
   0x8D498D478D4D8D558D5989C789CA89CB89CC89CE89CF89D089D1726E729F725D,
   0x7266726F727E727F7284728B728D728F72926308633263B0968C968E96919692,
   0x969396959696969A969B969D969E969F96A096A196A296A396A496A596A696A8,
   0x96A996AA96AB96AC96AD96AE96AF96B196B296B496B596B796B896BA96BB96BF,
   0x96C296C396C896CA96CB96D096D196D396D496D696D796D896D996DA96DB96DC,
   0x96DD96DE96DF96E196E296E396E496E596E696E796EB96EC96ED96EE96F096F1,
   0x96F296F496F596F896FA96FB96FC96FD96FF970297039705970A970B970C9710,
   0x9711971297149715971797189719971A971B971D971F9720643F64D880046BEA,
   0x6BF36BFD6BF56BF96C056C076C066C0D6C156C186C196C1A6C216C296C246C2A,
   0x6C3265356555656B724D72527256723086625216809F809C809380BC670A80BD,
   0x80B180AB80AD80B480B780E780E880E980EA80DB80C280C480D980CD80D76710,
   0x80DD80EB80F180F480ED810D810E80F280FC671581128C5A8136811E812C8118,
   0x81328148814C815381748159815A817181608169817C817D816D8167584D5AB5,
   0x8188818281916ED581A381AA81CC672681CA81BB972197229723972497259726,
   0x972797289729972B972C972E972F973197339734973597369737973A973B973C,
   0x973D973F9740974197429743974497459746974797489749974A974B974C974D,
   0x974E974F975097519754975597579758975A975C975D975F9763976497669767,
   0x9768976A976B976C976D976E976F9770977197729775977797789779977A977B,
   0x977D977E977F978097819782978397849786978797889789978A978C978E978F,
   0x979097939795979697979799979A979B979C979D81C181A66B246B376B396B43,
   0x6B466B5998D198D298D398D598D998DA6BB35F406BC289F365909F51659365BC,
   0x65C665C465C365CC65CE65D265D67080709C7096709D70BB70C070B770AB70B1,
   0x70E870CA711071137116712F71317173715C716871457172714A7178717A7198,
   0x71B371B571A871A071E071D471E771F9721D7228706C7118716671B9623E623D,
   0x624362486249793B794079467949795B795C7953795A796279577960796F7967,
   0x797A7985798A799A79A779B35FD15FD0979E979F97A197A297A497A597A697A7,
   0x97A897A997AA97AC97AE97B097B197B397B597B697B797B897B997BA97BB97BC,
   0x97BD97BE97BF97C097C197C297C397C497C597C697C797C897C997CA97CB97CC,
   0x97CD97CE97CF97D097D197D297D397D497D597D697D797D897D997DA97DB97DC,
   0x97DD97DE97DF97E097E197E297E397E497E597E897EE97EF97F097F197F297F4,
   0x97F797F897F997FA97FB97FC97FD97FE97FF9800980198029803980498059806,
   0x980798089809980A980B980C980D980E603C605D605A606760416059606360AB,
   0x6106610D615D61A9619D61CB61D162068080807F6C936CF66DFC77F677F87800,
   0x780978177818781165AB782D781C781D7839783A783B781F783C7825782C7823,
   0x7829784E786D78567857782678507847784C786A789B7893789A7887789C78A1,
   0x78A378B278B978A578D478D978C978EC78F2790578F479137924791E79349F9B,
   0x9EF99EFB9EFC76F17704770D76F977077708771A77227719772D772677357738,
   0x7750775177477743775A7768980F981098119812981398149815981698179818,
   0x9819981A981B981C981D981E981F982098219822982398249825982698279828,
   0x9829982A982B982C982D982E982F983098319832983398349835983698379838,
   0x9839983A983B983C983D983E983F984098419842984398449845984698479848,
   0x9849984A984B984C984D984E984F985098519852985398549855985698579858,
   0x9859985A985B985C985D985E985F986098619862986398649865986698679868,
   0x9869986A986B986C986D986E77627765777F778D777D7780778C7791779F77A0,
   0x77B077B577BD753A7540754E754B7548755B7572757975837F587F617F5F8A48,
   0x7F687F747F717F797F817F7E76CD76E58832948594869487948B948A948C948D,
   0x948F9490949494979495949A949B949C94A394A494AB94AA94AD94AC94AF94B0,
   0x94B294B494B694B794B894B994BA94BC94BD94BF94C494C894C994CA94CB94CC,
   0x94CD94CE94D094D194D294D594D694D794D994D894DB94DE94DF94E094E294E4,
   0x94E594E794E894EA986F98709871987298739874988B988E98929895989998A3,
   0x98A898A998AA98AB98AC98AD98AE98AF98B098B198B298B398B498B598B698B7,
   0x98B898B998BA98BB98BC98BD98BE98BF98C098C198C298C398C498C598C698C7,
   0x98C898C998CA98CB98CC98CD98CF98D098D498D698D798DB98DC98DD98E098E1,
   0x98E298E398E498E598E698E998EA98EB98EC98ED98EE98EF98F098F198F298F3,
   0x98F498F598F698F798F898F998FA98FB98FC98FD98FE98FF9900990199029903,
   0x990499059906990794E994EB94EE94EF94F394F494F594F794F994FC94FD94FF,
   0x95039502950695079509950A950D950E950F951295139514951595169518951B,
   0x951D951E951F9522952A952B9529952C953195329534953695379538953C953E,
   0x953F954295359544954595469549954C954E954F955295539554955695579558,
   0x9559955B955E955F955D95619562956495659566956795689569956A956B956C,
   0x956F957195729573953A77E777EC96C979D579ED79E379EB7A065D477A037A02,
   0x7A1E7A1499089909990A990B990C990E990F9911991299139914991599169917,
   0x99189919991A991B991C991D991E991F99209921992299239924992599269927,
   0x99289929992A992B992C992D992F993099319932993399349935993699379938,
   0x9939993A993B993C993D993E993F994099419942994399449945994699479948,
   0x9949994A994B994C994D994E994F99509951995299539956995799589959995A,
   0x995B995C995D995E995F99609961996299649966997399789979997B997E9982,
   0x998399897A397A377A519ECF99A57A707688768E7693769976A474DE74E0752C,
   0x9E209E229E289E299E2A9E2B9E2C9E329E319E369E389E379E399E3A9E3E9E41,
   0x9E429E449E469E479E489E499E4B9E4C9E4E9E519E559E579E5A9E5B9E5C9E5E,
   0x9E639E669E679E689E699E6A9E6B9E6C9E719E6D9E7375927594759675A0759D,
   0x75AC75A375B375B475B875C475B175B075C375C275D675CD75E375E875E675E4,
   0x75EB75E7760375F175FC75FF761076007605760C7617760A7625761876157619,
   0x998C998E999A999B999C999D999E999F99A099A199A299A399A499A699A799A9,
   0x99AA99AB99AC99AD99AE99AF99B099B199B299B399B499B599B699B799B899B9,
   0x99BA99BB99BC99BD99BE99BF99C099C199C299C399C499C599C699C799C899C9,
   0x99CA99CB99CC99CD99CE99CF99D099D199D299D399D499D599D699D799D899D9,
   0x99DA99DB99DC99DD99DE99DF99E099E199E299E399E499E599E699E799E899E9,
   0x99EA99EB99EC99ED99EE99EF99F099F199F299F399F499F599F699F799F899F9,
   0x761B763C762276207640762D7630763F76357643763E7633764D765E7654765C,
   0x7656766B766F7FCA7AE67A787A797A807A867A887A957AA67AA07AAC7AA87AAD,
   0x7AB3886488698872887D887F888288A288C688B788BC88C988E288CE88E388E5,
   0x88F1891A88FC88E888FE88F0892189198913891B890A8934892B893689418966,
   0x897B758B80E576B276B477DC801280148016801C802080228025802680278029,
   0x80288031800B803580438046804D805280698071898398789880988399FA99FB,
   0x99FC99FD99FE99FF9A009A019A029A039A049A059A069A079A089A099A0A9A0B,
   0x9A0C9A0D9A0E9A0F9A109A119A129A139A149A159A169A179A189A199A1A9A1B,
   0x9A1C9A1D9A1E9A1F9A209A219A229A239A249A259A269A279A289A299A2A9A2B,
   0x9A2C9A2D9A2E9A2F9A309A319A329A339A349A359A369A379A389A399A3A9A3B,
   0x9A3C9A3D9A3E9A3F9A409A419A429A439A449A459A469A479A489A499A4A9A4B,
   0x9A4C9A4D9A4E9A4F9A509A519A529A539A549A559A569A579A589A599889988C,
   0x988D988F9894989A989B989E989F98A198A298A598A6864D8654866C866E867F,
   0x867A867C867B86A8868D868B86AC869D86A786A386AA869386A986B686C486B5,
   0x86CE86B086BA86B186AF86C986CF86B486E986F186F286ED86F386D0871386DE,
   0x86F486DF86D886D18703870786F88708870A870D87098723873B871E8725872E,
   0x871A873E87488734873187298737873F87828722877D877E877B87608770874C,
   0x876E878B87538763877C876487598765879387AF87A887D29A5A9A5B9A5C9A5D,
   0x9A5E9A5F9A609A619A629A639A649A659A669A679A689A699A6A9A6B9A729A83,
   0x9A899A8D9A8E9A949A959A999AA69AA99AAA9AAB9AAC9AAD9AAE9AAF9AB29AB3,
   0x9AB49AB59AB99ABB9ABD9ABE9ABF9AC39AC49AC69AC79AC89AC99ACA9ACD9ACE,
   0x9ACF9AD09AD29AD49AD59AD69AD79AD99ADA9ADB9ADC9ADD9ADE9AE09AE29AE3,
   0x9AE49AE59AE79AE89AE99AEA9AEC9AEE9AF09AF19AF29AF39AF49AF59AF69AF7,
   0x9AF89AFA9AFC9AFD9AFE9AFF9B009B019B029B049B059B0687C68788878587AD,
   0x8797878387AB87E587AC87B587B387CB87D387BD87D187C087CA87DB87EA87E0,
   0x87EE8816881387FE880A881B88218839883C7F367F427F447F4582107AFA7AFD,
   0x7B087B037B047B157B0A7B2B7B0F7B477B387B2A7B197B2E7B317B207B257B24,
   0x7B337B3E7B1E7B587B5A7B457B757B4C7B5D7B607B6E7B7B7B627B727B717B90,
   0x7BA67BA77BB87BAC7B9D7BA87B857BAA7B9C7BA27BAB7BB47BD17BC17BCC7BDD,
   0x7BDA7BE57BE67BEA7C0C7BFE7BFC7C0F7C167C0B9B079B099B0A9B0B9B0C9B0D,
   0x9B0E9B109B119B129B149B159B169B179B189B199B1A9B1B9B1C9B1D9B1E9B20,
   0x9B219B229B249B259B269B279B289B299B2A9B2B9B2C9B2D9B2E9B309B319B33,
   0x9B349B359B369B379B389B399B3A9B3D9B3E9B3F9B409B469B4A9B4B9B4C9B4E,
   0x9B509B529B539B559B569B579B589B599B5A9B5B9B5C9B5D9B5E9B5F9B609B61,
   0x9B629B639B649B659B669B679B689B699B6A9B6B9B6C9B6D9B6E9B6F9B709B71,
   0x9B729B739B749B759B769B779B789B799B7A9B7B7C1F7C2A7C267C387C417C40,
   0x81FE82018202820481EC8844822182228223822D822F8228822B8238823B8233,
   0x8234823E82448249824B824F825A825F8268887E8885888888D888DF895E7F9D,
   0x7F9F7FA77FAF7FB07FB27C7C65497C917C9D7C9C7C9E7CA27CB27CBC7CBD7CC1,
   0x7CC77CCC7CCD7CC87CC57CD77CE8826E66A87FBF7FCE7FD57FE57FE17FE67FE9,
   0x7FEE7FF37CF87D777DA67DAE7E477E9B9EB89EB48D738D848D948D918DB18D67,
   0x8D6D8C478C49914A9150914E914F91649B7C9B7D9B7E9B7F9B809B819B829B83,
   0x9B849B859B869B879B889B899B8A9B8B9B8C9B8D9B8E9B8F9B909B919B929B93,
   0x9B949B959B969B979B989B999B9A9B9B9B9C9B9D9B9E9B9F9BA09BA19BA29BA3,
   0x9BA49BA59BA69BA79BA89BA99BAA9BAB9BAC9BAD9BAE9BAF9BB09BB19BB29BB3,
   0x9BB49BB59BB69BB79BB89BB99BBA9BBB9BBC9BBD9BBE9BBF9BC09BC19BC29BC3,
   0x9BC49BC59BC69BC79BC89BC99BCA9BCB9BCC9BCD9BCE9BCF9BD09BD19BD29BD3,
   0x9BD49BD59BD69BD79BD89BD99BDA9BDB9162916191709169916F917D917E9172,
   0x91749179918C91859190918D919191A291A391AA91AD91AE91AF91B591B491BA,
   0x8C559E7E8DB88DEB8E058E598E698DB58DBF8DBC8DBA8DC48DD68DD78DDA8DDE,
   0x8DCE8DCF8DDB8DC68DEC8DF78DF88DE38DF98DFB8DE48E098DFD8E148E1D8E1F,
   0x8E2C8E2E8E238E2F8E3A8E408E398E358E3D8E318E498E418E428E518E528E4A,
   0x8E708E768E7C8E6F8E748E858E8F8E948E908E9C8E9E8C788C828C8A8C858C98,
   0x8C94659B89D689DE89DA89DC9BDC9BDD9BDE9BDF9BE09BE19BE29BE39BE49BE5,
   0x9BE69BE79BE89BE99BEA9BEB9BEC9BED9BEE9BEF9BF09BF19BF29BF39BF49BF5,
   0x9BF69BF79BF89BF99BFA9BFB9BFC9BFD9BFE9BFF9C009C019C029C039C049C05,
   0x9C069C079C089C099C0A9C0B9C0C9C0D9C0E9C0F9C109C119C129C139C149C15,
   0x9C169C179C189C199C1A9C1B9C1C9C1D9C1E9C1F9C209C219C229C239C249C25,
   0x9C269C279C289C299C2A9C2B9C2C9C2D9C2E9C2F9C309C319C329C339C349C35,
   0x9C369C379C389C399C3A9C3B89E589EB89EF8A3E8B26975396E996F396EF9706,
   0x97019708970F970E972A972D9730973E9F809F839F859F869F879F889F899F8A,
   0x9F8C9EFE9F0B9F0D96B996BC96BD96CE96D277BF96E0928E92AE92C8933E936A,
   0x93CA938F943E946B9C7F9C829C859C869C879C887A239C8B9C8E9C909C919C92,
   0x9C949C959C9A9C9B9C9E9C9F9CA09CA19CA29CA39CA59CA69CA79CA89CA99CAB,
   0x9CAD9CAE9CB09CB19CB29CB39CB49CB59CB69CB79CBA9CBB9CBC9CBD9CC49CC5,
   0x9CC69CC79CCA9CCB9C3C9C3D9C3E9C3F9C409C419C429C439C449C459C469C47,
   0x9C489C499C4A9C4B9C4C9C4D9C4E9C4F9C509C519C529C539C549C559C569C57,
   0x9C589C599C5A9C5B9C5C9C5D9C5E9C5F9C609C619C629C639C649C659C669C67,
   0x9C689C699C6A9C6B9C6C9C6D9C6E9C6F9C709C719C729C739C749C759C769C77,
   0x9C789C799C7A9C7B9C7D9C7E9C809C839C849C899C8A9C8C9C8F9C939C969C97,
   0x9C989C999C9D9CAA9CAC9CAF9CB99CBE9CBF9CC09CC19CC29CC89CC99CD19CD2,
   0x9CDA9CDB9CE09CE19CCC9CCD9CCE9CCF9CD09CD39CD49CD59CD79CD89CD99CDC,
   0x9CDD9CDF9CE2977C978597919792979497AF97AB97A397B297B49AB19AB09AB7,
   0x9E589AB69ABA9ABC9AC19AC09AC59AC29ACB9ACC9AD19B459B439B479B499B48,
   0x9B4D9B5198E8990D992E995599549ADF9AE19AE69AEF9AEB9AFB9AED9AF99B08,
   0x9B0F9B139B1F9B239EBD9EBE7E3B9E829E879E889E8B9E9293D69E9D9E9F9EDB,
   0x9EDC9EDD9EE09EDF9EE29EE99EE79EE59EEA9EEF9F229F2C9F2F9F399F379F3D,
   0x9F3E9F449CE39CE49CE59CE69CE79CE89CE99CEA9CEB9CEC9CED9CEE9CEF9CF0,
   0x9CF19CF29CF39CF49CF59CF69CF79CF89CF99CFA9CFB9CFC9CFD9CFE9CFF9D00,
   0x9D019D029D039D049D059D069D079D089D099D0A9D0B9D0C9D0D9D0E9D0F9D10,
   0x9D119D129D139D149D159D169D179D189D199D1A9D1B9D1C9D1D9D1E9D1F9D20,
   0x9D219D229D239D249D259D269D279D289D299D2A9D2B9D2C9D2D9D2E9D2F9D30,
   0x9D319D329D339D349D359D369D379D389D399D3A9D3B9D3C9D3D9D3E9D3F9D40,
   0x9D419D42E234E235E236E237E238E239E23AE23BE23CE23DE23EE23FE240E241,
   0xE242E243E244E245E246E247E248E249E24AE24BE24CE24DE24EE24FE250E251,
   0xE252E253E254E255E256E257E258E259E25AE25BE25CE25DE25EE25FE260E261,
   0xE262E263E264E265E266E267E268E269E26AE26BE26CE26DE26EE26FE270E271,
   0xE272E273E274E275E276E277E278E279E27AE27BE27CE27DE27EE27FE280E281,
   0xE282E283E284E285E286E287E288E289E28AE28BE28CE28DE28EE28FE290E291,
   0x9D439D449D459D469D479D489D499D4A9D4B9D4C9D4D9D4E9D4F9D509D519D52,
   0x9D539D549D559D569D579D589D599D5A9D5B9D5C9D5D9D5E9D5F9D609D619D62,
   0x9D639D649D659D669D679D689D699D6A9D6B9D6C9D6D9D6E9D6F9D709D719D72,
   0x9D739D749D759D769D779D789D799D7A9D7B9D7C9D7D9D7E9D7F9D809D819D82,
   0x9D839D849D859D869D879D889D899D8A9D8B9D8C9D8D9D8E9D8F9D909D919D92,
   0x9D939D949D959D969D979D989D999D9A9D9B9D9C9D9D9D9E9D9F9DA09DA19DA2,
   0xE292E293E294E295E296E297E298E299E29AE29BE29CE29DE29EE29FE2A0E2A1,
   0xE2A2E2A3E2A4E2A5E2A6E2A7E2A8E2A9E2AAE2ABE2ACE2ADE2AEE2AFE2B0E2B1,
   0xE2B2E2B3E2B4E2B5E2B6E2B7E2B8E2B9E2BAE2BBE2BCE2BDE2BEE2BFE2C0E2C1,
   0xE2C2E2C3E2C4E2C5E2C6E2C7E2C8E2C9E2CAE2CBE2CCE2CDE2CEE2CFE2D0E2D1,
   0xE2D2E2D3E2D4E2D5E2D6E2D7E2D8E2D9E2DAE2DBE2DCE2DDE2DEE2DFE2E0E2E1,
   0xE2E2E2E3E2E4E2E5E2E6E2E7E2E8E2E9E2EAE2EBE2ECE2EDE2EEE2EF9DA39DA4,
   0x9DA59DA69DA79DA89DA99DAA9DAB9DAC9DAD9DAE9DAF9DB09DB19DB29DB39DB4,
   0x9DB59DB69DB79DB89DB99DBA9DBB9DBC9DBD9DBE9DBF9DC09DC19DC29DC39DC4,
   0x9DC59DC69DC79DC89DC99DCA9DCB9DCC9DCD9DCE9DCF9DD09DD19DD29DD39DD4,
   0x9DD59DD69DD79DD89DD99DDA9DDB9DDC9DDD9DDE9DDF9DE09DE19DE29DE39DE4,
   0x9DE59DE69DE79DE89DE99DEA9DEB9DEC9DED9DEE9DEF9DF09DF19DF29DF39DF4,
   0x9DF59DF69DF79DF89DF99DFA9DFB9DFC9DFD9DFE9DFF9E009E019E02E2F0E2F1,
   0xE2F2E2F3E2F4E2F5E2F6E2F7E2F8E2F9E2FAE2FBE2FCE2FDE2FEE2FFE300E301,
   0xE302E303E304E305E306E307E308E309E30AE30BE30CE30DE30EE30FE310E311,
   0xE312E313E314E315E316E317E318E319E31AE31BE31CE31DE31EE31FE320E321,
   0xE322E323E324E325E326E327E328E329E32AE32BE32CE32DE32EE32FE330E331,
   0xE332E333E334E335E336E337E338E339E33AE33BE33CE33DE33EE33FE340E341,
   0xE342E343E344E345E346E347E348E349E34AE34BE34CE34D9E039E049E059E06,
   0x9E079E089E099E0A9E0B9E0C9E0D9E0E9E0F9E109E119E129E139E149E159E16,
   0x9E179E189E199E1A9E1B9E1C9E1D9E1E9E249E279E2E9E309E349E3B9E3C9E40,
   0x9E4D9E509E529E539E549E569E599E5D9E5F9E609E619E629E659E6E9E6F9E72,
   0x9E749E759E769E779E789E799E7A9E7B9E7C9E7D9E809E819E839E849E859E86,
   0x9E899E8A9E8C9E8D9E8E9E8F9E909E919E949E959E969E979E989E999E9A9E9B,
   0x9E9C9E9E9EA09EA19EA29EA39EA49EA59EA79EA89EA99EAAE34EE34FE350E351,
   0xE352E353E354E355E356E357E358E359E35AE35BE35CE35DE35EE35FE360E361,
   0xE362E363E364E365E366E367E368E369E36AE36BE36CE36DE36EE36FE370E371,
   0xE372E373E374E375E376E377E378E379E37AE37BE37CE37DE37EE37FE380E381,
   0xE382E383E384E385E386E387E388E389E38AE38BE38CE38DE38EE38FE390E391,
   0xE392E393E394E395E396E397E398E399E39AE39BE39CE39DE39EE39FE3A0E3A1,
   0xE3A2E3A3E3A4E3A5E3A6E3A7E3A8E3A9E3AAE3AB9EAB9EAC9EAD9EAE9EAF9EB0,
   0x9EB19EB29EB39EB59EB69EB79EB99EBA9EBC9EBF9EC09EC19EC29EC39EC59EC6,
   0x9EC79EC89ECA9ECB9ECC9ED09ED29ED39ED59ED69ED79ED99EDA9EDE9EE19EE3,
   0x9EE49EE69EE89EEB9EEC9EED9EEE9EF09EF19EF29EF39EF49EF59EF69EF79EF8,
   0x9EFA9EFD9EFF9F009F019F029F039F049F059F069F079F089F099F0A9F0C9F0F,
   0x9F119F129F149F159F169F189F1A9F1B9F1C9F1D9F1E9F1F9F219F239F249F25,
   0x9F269F279F289F299F2A9F2B9F2D9F2E9F309F31E3ACE3ADE3AEE3AFE3B0E3B1,
   0xE3B2E3B3E3B4E3B5E3B6E3B7E3B8E3B9E3BAE3BBE3BCE3BDE3BEE3BFE3C0E3C1,
   0xE3C2E3C3E3C4E3C5E3C6E3C7E3C8E3C9E3CAE3CBE3CCE3CDE3CEE3CFE3D0E3D1,
   0xE3D2E3D3E3D4E3D5E3D6E3D7E3D8E3D9E3DAE3DBE3DCE3DDE3DEE3DFE3E0E3E1,
   0xE3E2E3E3E3E4E3E5E3E6E3E7E3E8E3E9E3EAE3EBE3ECE3EDE3EEE3EFE3F0E3F1,
   0xE3F2E3F3E3F4E3F5E3F6E3F7E3F8E3F9E3FAE3FBE3FCE3FDE3FEE3FFE400E401,
   0xE402E403E404E405E406E407E408E4099F329F339F349F359F369F389F3A9F3C,
   0x9F3F9F409F419F429F439F459F469F479F489F499F4A9F4B9F4C9F4D9F4E9F4F,
   0x9F529F539F549F559F569F579F589F599F5A9F5B9F5C9F5D9F5E9F5F9F609F61,
   0x9F629F639F649F659F669F679F689F699F6A9F6B9F6C9F6D9F6E9F6F9F709F71,
   0x9F729F739F749F759F769F779F789F799F7A9F7B9F7C9F7D9F7E9F819F829F8D,
   0x9F8E9F8F9F909F919F929F939F949F959F969F979F989F9C9F9D9F9E9FA19FA2,
   0x9FA39FA49FA5F92CF979F995F9E7F9F1E40AE40BE40CE40DE40EE40FE410E411,
   0xE412E413E414E415E416E417E418E419E41AE41BE41CE41DE41EE41FE420E421,
   0xE422E423E424E425E426E427E428E429E42AE42BE42CE42DE42EE42FE430E431,
   0xE432E433E434E435E436E437E438E439E43AE43BE43CE43DE43EE43FE440E441,
   0xE442E443E444E445E446E447E448E449E44AE44BE44CE44DE44EE44FE450E451,
   0xE452E453E454E455E456E457E458E459E45AE45BE45CE45DE45EE45FE460E461,
   0xE462E463E464E465E466E467FA0CFA0DFA0EFA0FFA11FA13FA14FA18FA1FFA20,
   0xFA21FA23FA24FA27FA28FA292E81E816E817E8182E84347334472E882E8B9FB4,
   0x359E361A360E2E8C2E97396E39189FB539CF39DF3A7339D09FB69FB73B4E3C6E,
   0x3CE02EA7E8319FB82EAA4056415F2EAE43372EB32EB62EB7E83B43B143AC2EBB,
   0x43DD44D64661464C9FB947234729477C478D2ECA4947497A497D498249834985,
   0x4986499F499B49B749B69FBAE8554CA34C9F4CA04CA14C774CA24D134D144D15,
   0x4D164D174D184D194DAE9FBBE468E469E46AE46BE46CE46DE46EE46FE470E471,
   0xE472E473E474E475E476E477E478E479E47AE47BE47CE47DE47EE47FE480E481,
   0xE482E483E484E485E486E487E488E489E48AE48BE48CE48DE48EE48FE490E491,
   0xE492E493E494E495E496E497E498E499E49AE49BE49CE49DE49EE49FE4A0E4A1,
   0xE4A2E4A3E4A4E4A5E4A6E4A7E4A8E4A9E4AAE4ABE4ACE4ADE4AEE4AFE4B0E4B1,
   0xE4B2E4B3E4B4E4B5E4B6E4B7E4B8E4B9E4BAE4BBE4BCE4BDE4BEE4BFE4C0E4C1,
   0xE4C2E4C3E4C4E4C5000000000000000000000000000000000000000000000000]

end JavaFormat.Charset.Table
