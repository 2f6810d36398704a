/-!
# The table of JIS X 0212

A pointer counts 94 cells to a row.
-/

set_option autoImplicit false

namespace JavaFormat.Charset.Table

/-- The code points of the table, sixteen to a number and four hexadecimal digits to each; zero
where the table has none. -/
def jis0212 : List Nat :=
  [0, 0, 0, 0, 0, 0, 0x00000000000000000000000000000000000000000000000002D802C700B802D9,
   0x02DD00AF02DB02DAFF5E038403850000000000000000000000000000000000A1,
   0x00A600BF00000000000000000000000000000000000000000000000000000000, 0,
   0x0000000000000000000000000000000000BA00AA00A900AE212200A421160000, 0, 0, 0, 0, 0, 0, 0, 0, 0, 0,
   0, 0, 0, 0, 0, 0, 0, 0, 0, 0, 0, 0,
   0x000000000000000000000000038603880389038A03AA0000038C0000038E03AB,
   0x0000038F000000000000000003AC03AD03AE03AF03CA039003CC03C203CD03CB,
   0x03B003CE00000000000000000000000000000000000000000000000000000000, 0,
   0x0000000000000000000004020403040404050406040704080409040A040B040C,
   0x040E040F00000000000000000000000000000000000000000000000000000000, 0,
   0x0000000000000000000004520453045404550456045704580459045A045B045C,
   0x045E045F00000000000000000000000000000000000000000000000000000000, 0, 0, 0, 0, 0,
   0x00C60110000001260000013200000141013F0000014A00D801520000016600DE, 0,
   0x00E6011100F00127013101330138014201400149014B00F8015300DF016700FE, 0, 0,
   0x0000000000000000000000000000000000000000000000000000000000C100C0,
   0x00C400C2010201CD0100010400C500C301060108010C00C7010A010E00C900C8,
   0x00CB00CA011A0116011201180000011C011E01220120012400CD00CC00CF00CE,
   0x01CF0130012A012E0128013401360139013D013B01430147014500D100D300D2,
   0x00D600D401D10150014C00D5015401580156015A015C0160015E0164016200DA,
   0x00D900DC00DB016C01D30170016A0172016E016801D701DB01D901D5017400DD,
   0x017801760179017D017B000000000000000000000000000000E100E000E400E2,
   0x010301CE0101010500E500E301070109010D00E7010B010F00E900E800EB00EA,
   0x011B01170113011901F5011D011F00000121012500ED00EC00EF00EE01D00000,
   0x012B012F012901350137013A013E013C01440148014600F100F300F200F600F4,
   0x01D20151014D00F5015501590157015B015D0161015F0165016300FA00F900FC,
   0x00FB016D01D40171016B0173016F016901D801DC01DA01D6017500FD00FF0177,
   0x017A017E017C0000000000000000000000000000000000000000000000000000, 0, 0, 0, 0, 0, 0, 0, 0, 0, 0,
   0, 0, 0, 0, 0, 0, 0, 0, 0, 0, 0, 0, 0,
   0x000000004E024E044E054E0C4E124E1F4E234E244E284E2B4E2E4E2F4E304E35,
   0x4E404E414E444E474E514E5A4E5C4E634E684E694E744E754E794E7F4E8D4E96,
   0x4E974E9D4EAF4EB94EC34ED04EDA4EDB4EE04EE14EE24EE84EEF4EF14EF34EF5,
   0x4EFD4EFE4EFF4F004F024F034F084F0B4F0C4F124F154F164F174F194F2E4F31,
   0x4F604F334F354F374F394F3B4F3E4F404F424F484F494F4B4F4C4F524F544F56,
   0x4F584F5F4F634F6A4F6C4F6E4F714F774F784F794F7A4F7D4F7E4F814F824F84,
   0x4F854F894F8A4F8C4F8E4F904F924F934F944F974F994F9A4F9E4F9F4FB24FB7,
   0x4FB94FBB4FBC4FBD4FBE4FC04FC14FC54FC64FC84FC94FCB4FCC4FCD4FCF4FD2,
   0x4FDC4FE04FE24FF04FF24FFC4FFD4FFF5000500150045007500A500C500E5010,
   0x501350175018501B501C501D501E50225027502E503050325033503550405041,
   0x504250455046504A504C504E50515052505350575059505F5060506250635066,
   0x5067506A506D50705071503B5081508350845086508A508E508F509050925093,
   0x50945096509B509C509E509F50A050A150A250AA50AF50B050B950BA50BD50C0,
   0x50C350C450C750CC50CE50D050D350D450D850DC50DD50DF50E250E450E650E8,
   0x50E950EF50F150F650FA50FE5103510651075108510B510C510D510E50F25110,
   0x51175119511B511C511D511E512351275128512C512D512F5131513351345135,
   0x513851395142514A514F5153515551575158515F51645166517E51835184518B,
   0x518E5198519D51A151A351AD51B851BA51BC51BE51BF51C251C851CF51D151D2,
   0x51D351D551D851DE51E251E551EE51F251F351F451F752015202520552125213,
   0x52155216521852225228523152325235523C52455249525552575258525A525C,
   0x525F526052615266526E527752785279528052825285528A528C529352955296,
   0x52975298529A529C52A452A552A652A752AF52B052B652B752B852BA52BB52BD,
   0x52C052C452C652C852CC52CF52D152D452D652DB52DC52E152E552E852E952EA,
   0x52EC52F052F152F452F652F753005303530A530B530C531153135318531B531C,
   0x531E531F5325532753285329532B532C532D533053325335533C533D533E5342,
   0x534C534B5359535B536153635365536C536D53725379537E538353875388538E,
   0x539353945399539D53A153A453AA53AB53AF53B253B453B553B753B853BA53BD,
   0x53C053C553CF53D253D353D553DA53DD53DE53E053E653E753F554025413541A,
   0x542154275428542A542F543154345435544354445447544D544F545E54625464,
   0x546654675469546B546D546E5474547F54815483548554885489548D54915495,
   0x5496549C549F54A154A654A754A954AA54AD54AE54B154B754B954BA54BB54BF,
   0x54C654CA54CD54CE54E054EA54EC54EF54F654FC54FE54FF5500550155055508,
   0x5509550C550D550E5515552A552B553255355536553B553C553D554155475549,
   0x554A554D555055515558555A555B555E5560556155645566557F558155825586,
   0x5588558E558F5591559255935594559755A355A455AD55B255BF55C155C355C6,
   0x55C955CB55CC55CE55D155D255D355D755D855DB55DE55E255E955F655FF5605,
   0x5608560A560D560E560F5610561156125619562C56305633563556375639563B,
   0x563C563D563F564056415643564456465649564B564D564F5654565E56605661,
   0x5662566356665669566D566F567156725675568456855688568B568C56955699,
   0x569A569D569E569F56A656A756A856A956AB56AC56AD56B156B356B756BE56C5,
   0x56C956CA56CB56CF56D056CC56CD56D956DC56DD56DF56E156E456E556E656E7,
   0x56E856F156EB56ED56F656F7570157025707570A570C57115715571A571B571D,
   0x572057225723572457255729572A572C572E572F57335734573D573E573F5745,
   0x5746574C574D57525762576557675768576B576D576E576F5770577157735774,
   0x577557775779577A577B577C577E57815783578C579457975799579A579C579D,
   0x579E579F57A1579557A757A857A957AC57B857BD57C757C857CC57CF57D557DD,
   0x57DE57E457E657E757E957ED57F057F557F657F857FD57FE57FF580358045808,
   0x580957E1580C580D581B581E581F582058265827582D58325839583F5849584C,
   0x584D584F58505855585F58615864586758685878587C587F5880588158875888,
   0x5889588A588C588D588F589058945896589D58A058A158A258A658A958B158B2,
   0x58C458BC58C258C858CD58CE58D058D258D458D658DA58DD58E158E258E958F3,
   0x59055906590B590C5912591359148641591D5921592359245928592F59305933,
   0x59355936593F59435946595259535959595B595D595E595F59615963596B596D,
   0x596F5972597559765979597B597C598B598C598E599259955997599F59A459A7,
   0x59AD59AE59AF59B059B359B759BA59BC59C159C359C459C859CA59CD59D259DD,
   0x59DE59DF59E359E459E759EE59EF59F159F259F459F75A005A045A0C5A0D5A0E,
   0x5A125A135A1E5A235A245A275A285A2A5A2D5A305A445A455A475A485A4C5A50,
   0x5A555A5E5A635A655A675A6D5A775A7A5A7B5A7E5A8B5A905A935A965A995A9C,
   0x5A9E5A9F5AA05AA25AA75AAC5AB15AB25AB35AB55AB85ABA5ABB5ABF5AC45AC6,
   0x5AC85ACF5ADA5ADC5AE05AE55AEA5AEE5AF55AF65AFD5B005B015B085B175B34,
   0x5B195B1B5B1D5B215B255B2D5B385B415B4B5B4C5B525B565B5E5B685B6E5B6F,
   0x5B7C5B7D5B7E5B7F5B815B845B865B8A5B8E5B905B915B935B945B965BA85BA9,
   0x5BAC5BAD5BAF5BB15BB25BB75BBA5BBC5BC05BC15BCD5BCF5BD65BD75BD85BD9,
   0x5BDA5BE05BEF5BF15BF45BFD5C0C5C175C1E5C1F5C235C265C295C2B5C2C5C2E,
   0x5C305C325C355C365C595C5A5C5C5C625C635C675C685C695C6D5C705C745C75,
   0x5C7A5C7B5C7C5C7D5C875C885C8A5C8F5C925C9D5C9F5CA05CA25CA35CA65CAA,
   0x5CB25CB45CB55CBA5CC95CCB5CD25CDD5CD75CEE5CF15CF25CF45D015D065D0D,
   0x5D125D2B5D235D245D265D275D315D345D395D3D5D3F5D425D435D465D485D55,
   0x5D515D595D4A5D5F5D605D615D625D645D6A5D6D5D705D795D7A5D7E5D7F5D81,
   0x5D835D885D8A5D925D935D945D955D995D9B5D9F5DA05DA75DAB5DB05DB45DB8,
   0x5DB95DC35DC75DCB5DD05DCE5DD85DD95DE05DE45DE95DF85DF95E005E075E0D,
   0x5E125E145E155E185E1F5E205E2E5E285E325E355E3E5E4B5E505E495E515E56,
   0x5E585E5B5E5C5E5E5E685E6A5E6B5E6C5E6D5E6E5E705E805E8B5E8E5EA25EA4,
   0x5EA55EA85EAA5EAC5EB15EB35EBD5EBE5EBF5EC65ECC5ECB5ECE5ED15ED25ED4,
   0x5ED55EDC5EDE5EE55EEB5F025F065F075F085F0E5F195F1C5F1D5F215F225F23,
   0x5F245F285F2B5F2C5F2E5F305F345F365F3B5F3D5F3F5F405F445F455F475F4D,
   0x5F505F545F585F5B5F605F635F645F675F6F5F725F745F755F785F7A5F7D5F7E,
   0x5F895F8D5F8F5F965F9C5F9D5FA25FA75FAB5FA45FAC5FAF5FB05FB15FB85FC4,
   0x5FC75FC85FC95FCB5FD05FD15FD25FD35FD45FDE5FE15FE25FE85FE95FEA5FEC,
   0x5FED5FEE5FEF5FF25FF35FF65FFA5FFC6007600A600D6013601460176018601A,
   0x601F6024602D603360356040604760486049604C6051605460566057605D6061,
   0x60676071607E607F608260866088608A608E6091609360956098609D609E60A2,
   0x60A460A560A860B060B160B760BB60BE60C260C460C860C960CA60CB60CE60CF,
   0x60D460D560D960DB60DD60DE60E260E560F260F560F860FC60FD61026107610A,
   0x610C61106111611261136114611661176119611C611E6122612A612B61306131,
   0x61356136613761396141614561466149615E6160616C61726178617B617C617F,
   0x6180618161836184618B618D6192619361976198619C619D619F61A061A561A8,
   0x61AA61AD61B861B961BC61C061C161C261CE61CF61D561DC61DD61DE61DF61E1,
   0x61E261E761E961E561EC61ED61EF620162036204620762136215621C62206222,
   0x622362276229622B6239623D6242624362446246624C62506251625262546256,
   0x625A625C6264626D626F6273627A627D628D628E628F629062A662A862B362B6,
   0x62B762BA62BE62BF62C462CE62D562D662DA62EA62F262F462FC62FD63036304,
   0x630A630B630D63106313631663186329632A632D633563366339633C63416342,
   0x634363446346634A634B634E6352635363546358635B63656366636C636D6371,
   0x637463756378637C637D637F638263846387638A6390639463956399639A639E,
   0x63A463A663AD63AE63AF63BD63C163C563C863CE63D163D363D463D563DC63E0,
   0x63E563EA63EC63F263F363F563F863F96409640A6410641264146418641E6420,
   0x6422642464256429642A642F64306435643D643F644B644F6451645264536454,
   0x645A645B645C645D645F646064616463646D64736474647B647D64856487648F,
   0x6490649164986499649B649D649F64A164A364A664A864AC64B364BD64BE64BF,
   0x64C464C964CA64CB64CC64CE64D064D164D564D764E464E564E964EA64ED64F0,
   0x64F564F764FB64FF6501650465086509650A650F6513651465166519651B651E,
   0x651F652265266529652E6531653A653C653D654365476549655065526554655F,
   0x65606567656B657A657D65816585658A659265956598659D65A065A365A665AE,
   0x65B265B365B465BF65C265C865C965CE65D065D465D665D865DF65F065F265F4,
   0x65F565F965FE65FF6600660466086609660D6611661266156616661D661E6621,
   0x66226623662466266629662A662B662C662E6630663166336639663766406645,
   0x6646664A664C6651664E665766586659665B665C6660666166FB666A666B666C,
   0x667E66736675667F667766786679667B6680667C668B668C668D669066926699,
   0x669A669B669C669F66A066A466AD66B166B266B566BB66BF66C066C266C366C8,
   0x66CC66CE66CF66D466DB66DF66E866EB66EC66EE66FA67056707670E67136719,
   0x671C672067226733673E674567476748674C67546755675D6766676C676E6774,
   0x6776677B67816784678E678F67916793679667986799679B67B067B167B267B5,
   0x67BB67BC67BD67F967C067C267C367C567C867C967D267D767D967DC67E167E6,
   0x67F067F267F667F7685268146819681D681F68286827682C682D682F68306831,
   0x6833683B683F68446845684A684C685568576858685B686B686E686F68706871,
   0x687268756879687A687B687C688268846886688868966898689A689C68A168A3,
   0x68A568A968AA68AE68B268BB68C568C868CC68CF68D068D168D368D668D968DC,
   0x68DD68E568E868EA68EB68EC68ED68F068F168F568F668FB68FC68FD69066909,
   0x690A691069116913691669176931693369356938693B694269456949694E6957,
   0x695B696369646965696669686969696C697069716972697A697B697F6980698D,
   0x69926996699869A169A569A669A869AB69AD69AF69B769B869BA69BC69C569C8,
   0x69D169D669D769E269E569EE69EF69F169F369F569FE6A006A016A036A0F6A11,
   0x6A156A1A6A1D6A206A246A286A306A326A346A376A3B6A3E6A3F6A456A466A49,
   0x6A4A6A4E6A506A516A526A556A566A5B6A646A676A6A6A716A736A7E6A816A83,
   0x6A866A876A896A8B6A916A9B6A9D6A9E6A9F6AA56AAB6AAF6AB06AB16AB46ABD,
   0x6ABE6ABF6AC66AC96AC86ACC6AD06AD46AD56AD66ADC6ADD6AE46AE76AEC6AF0,
   0x6AF16AF26AFC6AFD6B026B036B066B076B096B0F6B106B116B176B1B6B1E6B24,
   0x6B286B2B6B2C6B2F6B356B366B3B6B3F6B466B4A6B4D6B526B566B586B5D6B60,
   0x6B676B6B6B6E6B706B756B7D6B7E6B826B856B976B9B6B9F6BA06BA26BA36BA8,
   0x6BA96BAC6BAD6BAE6BB06BB86BB96BBD6BBE6BC36BC46BC96BCC6BD66BDA6BE1,
   0x6BE36BE66BE76BEE6BF16BF76BF96BFF6C026C046C056C096C0D6C0E6C106C12,
   0x6C196C1F6C266C276C286C2C6C2E6C336C356C366C3A6C3B6C3F6C4A6C4B6C4D,
   0x6C4F6C526C546C596C5B6C5C6C6B6C6D6C6F6C746C766C786C796C7B6C856C86,
   0x6C876C896C946C956C976C986C9C6C9F6CB06CB26CB46CC26CC66CCD6CCF6CD0,
   0x6CD16CD26CD46CD66CDA6CDC6CE06CE76CE96CEB6CEC6CEE6CF26CF46D046D07,
   0x6D0A6D0E6D0F6D116D136D1A6D266D276D286C676D2E6D2F6D316D396D3C6D3F,
   0x6D576D5E6D5F6D616D656D676D6F6D706D7C6D826D876D916D926D946D966D97,
   0x6D986DAA6DAC6DB46DB76DB96DBD6DBF6DC46DC86DCA6DCE6DCF6DD66DDB6DDD,
   0x6DDF6DE06DE26DE56DE96DEF6DF06DF46DF66DFC6E006E046E1E6E226E276E32,
   0x6E366E396E3B6E3C6E446E456E486E496E4B6E4F6E516E526E536E546E576E5C,
   0x6E5D6E5E6E626E636E686E736E7B6E7D6E8D6E936E996EA06EA76EAD6EAE6EB1,
   0x6EB36EBB6EBF6EC06EC16EC36EC76EC86ECA6ECD6ECE6ECF6EEB6EED6EEE6EF9,
   0x6EFB6EFD6F046F086F0A6F0C6F0D6F166F186F1A6F1B6F266F296F2A6F2F6F30,
   0x6F336F366F3B6F3C6F2D6F4F6F516F526F536F576F596F5A6F5D6F5E6F616F62,
   0x6F686F6C6F7D6F7E6F836F876F886F8B6F8C6F8D6F906F926F936F946F966F9A,
   0x6F9F6FA06FA56FA66FA76FA86FAE6FAF6FB06FB56FB66FBC6FC56FC76FC86FCA,
   0x6FDA6FDE6FE86FE96FF06FF56FF96FFC6FFD7000700570067007700D70177020,
   0x7023702F703470377039703C7043704470487049704A704B70547055705D705E,
   0x704E70647065706C706E70757076707E70817085708670947095709670977098,
   0x709B70A470AB70B070B170B470B770CA70D170D370D470D570D670D870DC70E4,
   0x70FA71037104710571067107710B710C710F711E7120712B712D712F71307131,
   0x71387141714571467147714A714B715071527157715A715C715E716071687179,
   0x718071857187718C7192719A719B71A071A271AF71B071B271B371BA71BF71C0,
   0x71C171C471CB71CC71D371D671D971DA71DC71F871FE72007207720872097213,
   0x7217721A721D721F7224722B722F7234723872397241724272437245724E724F,
   0x7250725372557256725A725C725E726072637268726B726E726F727172777278,
   0x727B727C727F72847289728D728E7293729B72A872AD72AE72B172B472BE72C1,
   0x72C772C972CC72D572D672D872DF72E572F372F472FA72FB72FE730273047305,
   0x7307730B730D7312731373187319731E7322732473277328732C733173327335,
   0x733A733B733D7343734D7350735273567358735D735E735F7360736673677369,
   0x736B736C736E736F737173777379737C73807381738373857386738E73907393,
   0x739573977398739C739E739F73A073A273A573A673AA73AB73AD73B573B773B9,
   0x73BC73BD73BF73C573C673C973CB73CC73CF73D273D373D673D973DD73E173E3,
   0x73E673E773E973F473F573F773F973FA73FB73FD73FF7400740174047407740A,
   0x7411741A741B7424742674287429742A742B742C742D742E742F743074317439,
   0x74407443744474467447744B744D745174527457745D7462746674677468746B,
   0x746D746E74717472748074817485748674877489748F74907491749274987499,
   0x749A749C749F74A074A174A374A674A874A974AA74AB74AE74AF74B174B274B5,
   0x74B974BB74BF74C874C974CC74D074D374D874DA74DB74DE74DF74E474E874EA,
   0x74EB74EF74F474FA74FB74FC74FF750675127516751775207521752475277529,
   0x752A752F75367539753D753E753F7540754375477548754E755075527557755E,
   0x755F7561756F75717579757A757B757C757D757E758175857590759275937595,
   0x7599759C75A275A475B475BA75BF75C075C175C475C675CC75CE75CF75D775DC,
   0x75DF75E075E175E475E775EC75EE75EF75F175F9760076027603760476077608,
   0x760A760C760F76127613761576167619761B761C761D761E7623762576267629,
   0x762D76327633763576387639763A763C764A764076417643764476457649764B,
   0x76557659765F76647665766D766E766F7671767476817685768C768D7695769B,
   0x769C769D769F76A076A276A376A476A576A676A776A876AA76AD76BD76C176C5,
   0x76C976CB76CC76CE76D476D976E076E676E876EC76F076F176F676F976FC7700,
   0x7706770A770E77127714771577177719771A771C77227728772D772E772F7734,
   0x773577367739773D773E774277457746774A774D774E774F775277567757775C,
   0x775E775F7760776277647767776A776C7770777277737774777A777D77807784,
   0x778C778D779477957796779A779F77A277A777AA77AE77AF77B177B577BE77C3,
   0x77C977D177D277D577D977DE77DF77E077E477E677EA77EC77F077F177F477F8,
   0x77FB780578067809780D780E7811781D782178227823782D782E783078357837,
   0x7843784478477848784C784E7852785C785E78607861786378647868786A786E,
   0x787A787E788A788F7894789878A1789D789E789F78A478A878AC78AD78B078B1,
   0x78B278B378BB78BD78BF78C778C878C978CC78CE78D278D378D578D678E478DB,
   0x78DF78E078E178E678EA78F278F3790078F678F778FA78FB78FF7906790C7910,
   0x791A791C791E791F7920792579277929792D793179347935793B793D793F7944,
   0x79457946794A794B794F795179547958795B795C79677969796B79727979797B,
   0x797C797E798B798C799179937994799579967998799B799C79A179A879A979AB,
   0x79AF79B179B479B879BB79C279C479C779C879CA79CF79D479D679DA79DD79DE,
   0x79E079E279E579EA79EB79ED79F179F879FC7A027A037A077A097A0A7A0C7A11,
   0x7A157A1B7A1E7A217A277A2B7A2D7A2F7A307A347A357A387A397A3A7A447A45,
   0x7A477A487A4C7A557A567A597A5C7A5D7A5F7A607A657A677A6A7A6D7A757A78,
   0x7A7E7A807A827A857A867A8A7A8B7A907A917A947A9E7AA07AA37AAC7AB37AB5,
   0x7AB97ABB7ABC7AC67AC97ACC7ACE7AD17ADB7AE87AE97AEB7AEC7AF17AF47AFB,
   0x7AFD7AFE7B077B147B1F7B237B277B297B2A7B2B7B2D7B2E7B2F7B307B317B34,
   0x7B3D7B3F7B407B417B477B4E7B557B607B647B667B697B6A7B6D7B6F7B727B73,
   0x7B777B847B897B8E7B907B917B967B9B7B9E7BA07BA57BAC7BAF7BB07BB27BB5,
   0x7BB67BBA7BBB7BBC7BBD7BC27BC57BC87BCA7BD47BD67BD77BD97BDA7BDB7BE8,
   0x7BEA7BF27BF47BF57BF87BF97BFA7BFC7BFE7C017C027C037C047C067C097C0B,
   0x7C0C7C0E7C0F7C197C1B7C207C257C267C287C2C7C317C337C347C367C397C3A,
   0x7C467C4A7C557C517C527C537C597C5A7C5B7C5C7C5D7C5E7C617C637C677C69,
   0x7C6D7C6E7C707C727C797C7C7C7D7C867C877C8F7C947C9E7CA07CA67CB07CB6,
   0x7CB77CBA7CBB7CBC7CBF7CC47CC77CC87CC97CCD7CCF7CD37CD47CD57CD77CD9,
   0x7CDA7CDD7CE67CE97CEB7CF57D037D077D087D097D0F7D117D127D137D167D1D,
   0x7D1E7D237D267D2A7D2D7D317D3C7D3D7D3E7D407D417D477D487D4D7D517D53,
   0x7D577D597D5A7D5C7D5D7D657D677D6A7D707D787D7A7D7B7D7F7D817D827D83,
   0x7D857D867D887D8B7D8C7D8D7D917D967D977D9D7D9E7DA67DA77DAA7DB37DB6,
   0x7DB77DB97DC27DC37DC47DC57DC67DCC7DCD7DCE7DD77DD97E007DE27DE57DE6,
   0x7DEA7DEB7DED7DF17DF57DF67DF97DFA7E087E107E117E157E177E1C7E1D7E20,
   0x7E277E287E2C7E2D7E2F7E337E367E3F7E447E457E477E4E7E507E527E587E5F,
   0x7E617E627E657E6B7E6E7E6F7E737E787E7E7E817E867E877E8A7E8D7E917E95,
   0x7E987E9A7E9D7E9E7F3C7F3B7F3D7F3E7F3F7F437F447F477F4F7F527F537F5B,
   0x7F5C7F5D7F617F637F647F657F667F6D7F717F7D7F7E7F7F7F807F8B7F8D7F8F,
   0x7F907F917F967F977F9C7FA17FA27FA67FAA7FAD7FB47FBC7FBF7FC07FC37FC8,
   0x7FCE7FCF7FDB7FDF7FE37FE57FE87FEC7FEE7FEF7FF27FFA7FFD7FFE7FFF8007,
   0x8008800A800D800E800F8011801380148016801D801E801F802080248026802C,
   0x802E80308034803580378039803A803C803E80408044806080648066806D8071,
   0x807580818088808E809C809E80A680A780AB80B880B980C880CD80CF80D280D4,
   0x80D580D780D880E080ED80EE80F080F280F380F680F980FA80FE8103810B8116,
   0x81178118811C811E812081248127812C81308135813A813C81458147814A814C,
   0x8152815781608161816781688169816D816F817781818190818481858186818B,
   0x818E81968198819B819E81A281AE81B281B481BB81CB81C381C581CA81CE81CF,
   0x81D581D781DB81DD81DE81E181E481EB81EC81F081F181F281F581F681F881F9,
   0x81FD81FF82008203820F821382148219821A821D82218222822882328234823A,
   0x8243824482458246824B824E824F82518256825C826082638267826D8274827B,
   0x827D827F828082818283828482878289828A828E8291829482968298829A829B,
   0x82A082A182A382A482A782A882A982AA82AE82B082B282B482B782BA82BC82BE,
   0x82BF82C682D082D582DA82E082E282E482E882EA82ED82EF82F682F782FD82FE,
   0x8300830183078308830A830B8354831B831D831E831F83218322832C832D832E,
   0x833083338337833A833C833D8342834383448347834D834E8351835583568357,
   0x83708378837D837F8380838283848386838D83928394839583988399839B839C,
   0x839D83A683A783A983AC83BE83BF83C083C783C983CF83D083D183D483DD8353,
   0x83E883EA83F683F883F983FC84018406840A840F84118415841983AD842F8439,
   0x844584478448844A844D844F84518452845684588459845A845C846084648465,
   0x8467846A84708473847484768478847C847D84818485849284938495849E84A6,
   0x84A884A984AA84AF84B184B484BA84BD84BE84C084C284C784C884CC84CF84D3,
   0x84DC84E784EA84EF84F084F184F284F7853284FA84FB84FD850285038507850C,
   0x850E8510851C851E85228523852485258527852A852B852F853385348536853F,
   0x8546854F855085518552855385568559855C855D855E855F8560856185628564,
   0x856B856F8579857A857B857D857F8581858585868589858B858C858F85938598,
   0x859D859F85A085A285A585A785B485B685B785B885BC85BD85BE85BF85C285C7,
   0x85CA85CB85CE85AD85D885DA85DF85E085E685E885ED85F385F685FC85FF8600,
   0x86048605860D860E86108611861286188619861B861E86218627862986368638,
   0x863A863C863D864086428646865286538656865786588659865D866086618662,
   0x866386648669866C866F867586768677867A868D869186968698869A869C86A1,
   0x86A686A786A886AD86B186B386B486B586B786B886B986BF86C086C186C386C5,
   0x86D186D286D586D786DA86DC86E086E386E586E7868886FA86FC86FD87048705,
   0x8707870B870E870F8710871387148719871E871F872187238728872E872F8731,
   0x87328739873A873C873D873E874087438745874D8758875D876187648765876F,
   0x87718772877B8783878487858786878787888789878B878C8790879387958797,
   0x87988799879E87A087A387A787AC87AD87AE87B187B587BE87BF87C187C887C9,
   0x87CA87CE87D587D687D987DA87DC87DF87E287E387E487EA87EB87ED87F187F3,
   0x87F887FA87FF8801880388068809880A880B881088198812881388148818881A,
   0x881B881C881E881F8828882D882E883088328835883A883C8841884388458848,
   0x8849884A884B884E8851885588568858885A885C885F88608864886988718879,
   0x887B88808898889A889B889C889F88A088A888AA88BA88BD88BE88C088CA88CB,
   0x88CC88CD88CE88D188D288D388DB88DE88E788EF88F088F188F588F789018906,
   0x890D890E890F8915891689188919891A891C8920892689278928893089318932,
   0x89358939893A893E89408942894589468949894F89528957895A895B895C8961,
   0x89628963896B896E897089738975897A897B897C897D8989898D899089948995,
   0x899B899C899F89A089A589B089B489B589B689B789BC89D489D589D689D789D8,
   0x89E589E989EB89ED89F189F389F689F989FD89FF8A048A058A078A0F8A118A12,
   0x8A148A158A1E8A208A228A248A268A2B8A2C8A2F8A358A378A3D8A3E8A408A43,
   0x8A458A478A498A4D8A4E8A538A568A578A588A5C8A5D8A618A658A678A758A76,
   0x8A778A798A7A8A7B8A7E8A7F8A808A838A868A8B8A8F8A908A928A968A978A99,
   0x8A9F8AA78AA98AAE8AAF8AB38AB68AB78ABB8ABE8AC38AC68AC88AC98ACA8AD1,
   0x8AD38AD48AD58AD78ADD8ADF8AEC8AF08AF48AF58AF68AFC8AFF8B058B068B0B,
   0x8B118B1C8B1E8B1F8B0A8B2D8B308B378B3C8B428B438B448B458B468B488B52,
   0x8B538B548B598B4D8B5E8B638B6D8B768B788B798B7C8B7E8B818B848B858B8B,
   0x8B8D8B8F8B948B958B9C8B9E8B9F8C388C398C3D8C3E8C458C478C498C4B8C4F,
   0x8C518C538C548C578C588C5B8C5D8C598C638C648C668C688C698C6D8C738C75,
   0x8C768C7B8C7E8C868C878C8B8C908C928C938C998C9B8C9C8CA48CB98CBA8CC5,
   0x8CC68CC98CCB8CCF8CD68CD58CD98CDD8CE18CE88CEC8CEF8CF08CF28CF58CF7,
   0x8CF88CFE8CFF8D018D038D098D128D178D1B8D658D698D6C8D6E8D7F8D828D84,
   0x8D888D8D8D908D918D958D9E8D9F8DA08DA68DAB8DAC8DAF8DB28DB58DB78DB9,
   0x8DBB8DC08DC58DC68DC78DC88DCA8DCE8DD18DD48DD58DD78DD98DE48DE58DE7,
   0x8DEC8DF08DBC8DF18DF28DF48DFD8E018E048E058E068E0B8E118E148E168E20,
   0x8E218E228E238E268E278E318E338E368E378E388E398E3D8E408E418E4B8E4D,
   0x8E4E8E4F8E548E5B8E5C8E5D8E5E8E618E628E698E6C8E6D8E6F8E708E718E79,
   0x8E7A8E7B8E828E838E898E908E928E958E9A8E9B8E9D8E9E8EA28EA78EA98EAD,
   0x8EAE8EB38EB58EBA8EBB8EC08EC18EC38EC48EC78ECF8ED18ED48EDC8EE88EEE,
   0x8EF08EF18EF78EF98EFA8EED8F008F028F078F088F0F8F108F168F178F188F1E,
   0x8F208F218F238F258F278F288F2C8F2D8F2E8F348F358F368F378F3A8F408F41,
   0x8F438F478F4F8F518F528F538F548F558F588F5D8F5E8F658F9D8FA08FA18FA4,
   0x8FA58FA68FB58FB68FB88FBE8FC08FC18FC68FCA8FCB8FCD8FD08FD28FD38FD5,
   0x8FE08FE38FE48FE88FEE8FF18FF58FF68FFB8FFE900290049008900C9018901B,
   0x90289029902F902A902C902D903390349037903F90439044904C905B905D9062,
   0x90669067906C90709074907990859088908B908C908E90909095909790989099,
   0x909B90A090A190A290A590B090B290B390B490B690BD90CC90BE90C390C490C5,
   0x90C790C890D590D790D890D990DC90DD90DF90E590D290F690EB90EF90F090F4,
   0x90FE90FF91009104910591069108910D91109114911691179118911A911C911E,
   0x912091259122912391279129912E912F91319134913691379139913A913C913D,
   0x914391479148914F915391579159915A915B916191649167916D91749179917A,
   0x917B9181918391859186918A918E91919193919491959198919E91A191A691A8,
   0x91AC91AD91AE91B091B191B291B391B691BB91BC91BD91BF91C291C391C591D3,
   0x91D491D791D991DA91DE91E491E591E991EA91EC91ED91EE91EF91F091F191F7,
   0x91F991FB91FD9200920192049205920692079209920A920C9210921292139216,
   0x9218921C921D92239224922592269228922E922F923092339235923692389239,
   0x923A923C923E92409242924392469247924A924D924E924F925192589259925C,
   0x925D926092619265926792689269926E926F927092759276927792789279927B,
   0x927C927D927F92889289928A928D928E929292979299929F92A092A492A592A7,
   0x92A892AB92AF92B292B692B892BA92BB92BC92BD92BF92C092C192C292C392C5,
   0x92C692C792C892CB92CC92CD92CE92D092D392D592D792D892D992DC92DD92DF,
   0x92E092E192E392E592E792E892EC92EE92F092F992FB92FF930093029308930D,
   0x931193149315931C931D931E931F93219324932593279329932A933393349336,
   0x9337934793489349935093519352935593579358935A935E9364936593679369,
   0x936A936D936F93709371937393749376937A937D937F9380938193829388938A,
   0x938B938D938F939293959398939B939E93A193A393A493A693A893AB93B493B5,
   0x93B693BA93A993C193C493C593C693C793C993CA93CB93CC93CD93D393D993DC,
   0x93DE93DF93E293E693E793F993F793F893FA93FB93FD94019402940494089409,
   0x940D940E940F941594169417941F942E942F9431943294339434943B943F943D,
   0x944394459448944A944C94559459945C945F946194639468946B946D946E946F,
   0x947194729484948395789579957E95849588958C958D958E959D959E959F95A1,
   0x95A695A995AB95AC95B495B695BA95BD95BF95C695C895C995CB95D095D195D2,
   0x95D395D995DA95DD95DE95DF95E095E495E6961D961E9622962496259626962C,
   0x96319633963796389639963A963C963D9641965296549656965796589661966E,
   0x9674967B967C967E967F9681968296839684968996919696969A969D969F96A4,
   0x96A596A696A996AE96AF96B396BA96CA96D25DB296D896DA96DD96DE96DF96E9,
   0x96EF96F196FA9702970397059709971A971B971D972197229723972897319733,
   0x97419743974A974E974F975597579758975A975B97639767976A976E97739776,
   0x97779778977B977D977F978097899795979697979799979A979E979F97A297AC,
   0x97AE97B197B297B597B697B897B997BA97BC97BE97BF97C197C497C597C797C9,
   0x97CA97CC97CD97CE97D097D197D497D797D897D997DD97DE97E097DB97E197E4,
   0x97EF97F197F497F797F897FA9807980A9819980D980E98149816981C981E9820,
   0x98239826982B982E982F98309832983398359825983E98449847984A98519852,
   0x9853985698579859985A9862986398659866986A986C98AB98AD98AE98B098B4,
   0x98B798B898BA98BB98BF98C298C598C898CC98E198E398E598E698E798EA98F3,
   0x98F69902990799089911991599169917991A991B991C991F992299269927992B,
   0x993199329933993499359939993A993B993C99409941994699479948994D994E,
   0x995499589959995B995C995E995F9960999B999D999F99A699B099B199B299B5,
   0x99B999BA99BD99BF99C399C999D399D499D999DA99DC99DE99E799EA99EB99EC,
   0x99F099F499F599F999FD99FE9A029A039A049A0B9A0C9A109A119A169A1E9A20,
   0x9A229A239A249A279A2D9A2E9A339A359A369A389A479A419A449A4A9A4B9A4C,
   0x9A4E9A519A549A569A5D9AAA9AAC9AAE9AAF9AB29AB49AB59AB69AB99ABB9ABE,
   0x9ABF9AC19AC39AC69AC89ACE9AD09AD29AD59AD69AD79ADB9ADC9AE09AE49AE5,
   0x9AE79AE99AEC9AF29AF39AF59AF99AFA9AFD9AFF9B009B019B029B039B049B05,
   0x9B089B099B0B9B0C9B0D9B0E9B109B129B169B199B1B9B1C9B209B269B2B9B2D,
   0x9B339B349B359B379B399B3A9B3D9B489B4B9B4C9B559B569B579B5B9B5E9B61,
   0x9B639B659B669B689B6A9B6B9B6C9B6D9B6E9B739B759B779B789B799B7F9B80,
   0x9B849B859B869B879B899B8A9B8B9B8D9B8F9B909B949B9A9B9D9B9E9BA69BA7,
   0x9BA99BAC9BB09BB19BB29BB79BB89BBB9BBC9BBE9BBF9BC19BC79BC89BCE9BD0,
   0x9BD79BD89BDD9BDF9BE59BE79BEA9BEB9BEF9BF39BF79BF89BF99BFA9BFD9BFF,
   0x9C009C029C0B9C0F9C119C169C189C199C1A9C1C9C1E9C229C239C269C279C28,
   0x9C299C2A9C319C359C369C379C3D9C419C439C449C459C499C4A9C4E9C4F9C50,
   0x9C539C549C569C589C5B9C5D9C5E9C5F9C639C699C6A9C5C9C6B9C689C6E9C70,
   0x9C729C759C779C7B9CE69CF29CF79CF99D0B9D029D119D179D189D1C9D1D9D1E,
   0x9D2F9D309D329D339D349D3A9D3C9D459D3D9D429D439D479D4A9D539D549D5F,
   0x9D639D629D659D699D6A9D6B9D709D769D779D7B9D7C9D7E9D839D849D869D8A,
   0x9D8D9D8E9D929D939D959D969D979D989DA19DAA9DAC9DAE9DB19DB59DB99DBC,
   0x9DBF9DC39DC79DC99DCA9DD49DD59DD69DD79DDA9DDE9DDF9DE09DE59DE79DE9,
   0x9DEB9DEE9DF09DF39DF49DFE9E0A9E029E079E0E9E109E119E129E159E169E19,
   0x9E1C9E1D9E7A9E7B9E7C9E809E829E839E849E859E879E8E9E8F9E969E989E9B,
   0x9E9E9EA49EA89EAC9EAE9EAF9EB09EB39EB49EB59EC69EC89ECB9ED59EDF9EE4,
   0x9EE79EEC9EED9EEE9EF09EF19EF29EF59EF89EFF9F029F039F099F0F9F109F11,
   0x9F129F149F169F179F199F1A9F1B9F1F9F229F269F2A9F2B9F2F9F319F329F34,
   0x9F379F399F3A9F3C9F3D9F3F9F419F439F449F459F469F479F539F559F569F57,
   0x9F589F5A9F5D9F5E9F689F699F6D9F6E9F6F9F709F719F739F759F7A9F7D9F8F,
   0x9F909F919F929F949F969F979F9E9FA19FA29FA39FA500000000000000000000, 0, 0, 0, 0, 0, 0, 0, 0, 0, 0,
   0, 0, 0, 0, 0, 0, 0, 0, 0, 0, 0, 0, 0, 0, 0, 0, 0, 0, 0, 0, 0, 0, 0, 0, 0, 0, 0, 0, 0, 0, 0, 0,
   0, 0, 0, 0, 0, 0, 0, 0, 0, 0, 0, 0, 0, 0, 0, 0, 0, 0, 0, 0, 0, 0, 0, 0, 0, 0, 0, 0, 0, 0, 0, 0,
   0, 0, 0, 0, 0, 0, 0, 0, 0, 0, 0, 0, 0, 0, 0, 0, 0, 0, 0, 0, 0, 0, 0, 0, 0, 0, 0, 0]

end JavaFormat.Charset.Table
