/-!
# The table of JIS X 0208

A pointer counts 94 cells to a row.  The rows above 94 hold the extensions that only Shift_JIS
reaches.
-/

set_option autoImplicit false

namespace JavaFormat.Charset.Table

/-- The code points of the table, sixteen to a number and four hexadecimal digits to each; zero
where the table has none. -/
def jis0208 : List Nat :=
  [0x300030013002FF0CFF0E30FBFF1AFF1BFF1FFF01309B309C00B4FF4000A8FF3E,
   0xFFE3FF3F30FD30FE309D309E30034EDD30053006300730FC20152010FF0FFF3C,
   0xFF5E2225FF5C2026202520182019201C201DFF08FF0930143015FF3BFF3DFF5B,
   0xFF5D30083009300A300B300C300D300E300F30103011FF0BFF0D00B100D700F7,
   0xFF1D2260FF1CFF1E22662267221E22342642264000B0203220332103FFE5FF04,
   0xFFE0FFE1FF05FF03FF06FF0AFF2000A72606260525CB25CF25CE25C725C625A1,
   0x25A025B325B225BD25BC203B3012219221902191219330130000000000000000,
   0x00000000000000000000000000002208220B2286228722822283222A22290000,
   0x000000000000000000000000000022272228FFE221D221D42200220300000000,
   0x000000000000000000000000000000000000222022A523122202220722612252,
   0x226A226B221A223D221D2235222B222C0000000000000000000000000000212B,
   0x2030266F266D266A2020202100B6000000000000000025EF0000000000000000,
   0x00000000000000000000000000000000000000000000FF10FF11FF12FF13FF14,
   0xFF15FF16FF17FF18FF190000000000000000000000000000FF21FF22FF23FF24,
   0xFF25FF26FF27FF28FF29FF2AFF2BFF2CFF2DFF2EFF2FFF30FF31FF32FF33FF34,
   0xFF35FF36FF37FF38FF39FF3A000000000000000000000000FF41FF42FF43FF44,
   0xFF45FF46FF47FF48FF49FF4AFF4BFF4CFF4DFF4EFF4FFF50FF51FF52FF53FF54,
   0xFF55FF56FF57FF58FF59FF5A0000000000000000304130423043304430453046,
   0x304730483049304A304B304C304D304E304F3050305130523053305430553056,
   0x305730583059305A305B305C305D305E305F3060306130623063306430653066,
   0x306730683069306A306B306C306D306E306F3070307130723073307430753076,
   0x307730783079307A307B307C307D307E307F3080308130823083308430853086,
   0x308730883089308A308B308C308D308E308F3090309130923093000000000000,
   0x0000000000000000000000000000000030A130A230A330A430A530A630A730A8,
   0x30A930AA30AB30AC30AD30AE30AF30B030B130B230B330B430B530B630B730B8,
   0x30B930BA30BB30BC30BD30BE30BF30C030C130C230C330C430C530C630C730C8,
   0x30C930CA30CB30CC30CD30CE30CF30D030D130D230D330D430D530D630D730D8,
   0x30D930DA30DB30DC30DD30DE30DF30E030E130E230E330E430E530E630E730E8,
   0x30E930EA30EB30EC30ED30EE30EF30F030F130F230F330F430F530F600000000,
   0x000000000000000000000000039103920393039403950396039703980399039A,
   0x039B039C039D039E039F03A003A103A303A403A503A603A703A803A900000000,
   0x00000000000000000000000003B103B203B303B403B503B603B703B803B903BA,
   0x03BB03BC03BD03BE03BF03C003C103C303C403C503C603C703C803C900000000, 0, 0,
   0x000000000000000004100411041204130414041504010416041704180419041A,
   0x041B041C041D041E041F0420042104220423042404250426042704280429042A,
   0x042B042C042D042E042F00000000000000000000000000000000000000000000,
   0x000000000000000004300431043204330434043504510436043704380439043A,
   0x043B043C043D043E043F0440044104420443044404450446044704480449044A,
   0x044B044C044D044E044F00000000000000000000000000000000000000000000,
   0x0000000025002502250C251025182514251C252C25242534253C25012503250F,
   0x2513251B251725232533252B253B254B2520252F25282537253F251D25302525,
   0x2538254200000000000000000000000000000000000000000000000000000000, 0, 0, 0, 0, 0, 0, 0, 0, 0, 0,
   0, 0, 0, 0, 0, 0, 0, 0, 0, 0, 0, 0, 0, 0, 0, 0,
   0x0000000000000000000000000000000024602461246224632464246524662467,
   0x24682469246A246B246C246D246E246F24702471247224732160216121622163,
   0x2164216521662167216821690000334933143322334D33183327330333363351,
   0x3357330D33263323332B334A333B339C339D339E338E338F33C433A100000000,
   0x000000000000000000000000337B301D301F211633CD212132A432A532A632A7,
   0x32A8323132323239337E337D337C22522261222B222E2211221A22A52220221F,
   0x22BF22352229222A000000000000000000000000000000000000000000000000, 0, 0, 0, 0, 0, 0, 0, 0, 0, 0,
   0, 0x000000004E9C55165A03963F54C0611B632859F690228475831C7A5060AA63E1,
   0x6E2565ED846682A69BF56893572765A162715B9B59D0867B98F47D627DBE9B8E,
   0x62167C9F88B75B895EB563096697684895C7978D674F4EE54F0A4F4D4F9D5049,
   0x56F2593759D45A015C0960DF610F61706613690570BA754F757079FB7DAD7DEF,
   0x80C3840E88638B029055907A533B4E954EA557DF80B290C178EF4E0058F16EA2,
   0x90387A328328828B9C2F5141537054BD54E156E059FB5F1598F26DEB80E4852D,
   0x9662967096A097FB540B53F35B8770CF7FBD8FC296E8536F9D5C7ABA4E117893,
   0x81FC6E26561855046B1D851A9C3B59E553A96D6674DC958F56424E91904B96F2,
   0x834F990C53E155B65B305F71662066F368046C386CF36D29745B76C87A4E9834,
   0x82F1885B8A6092ED6DB275AB76CA99C560A68B018D8A95B2698E53AD51865712,
   0x583059445BB45EF6602863A963F46CBF6F14708E7114715971D5733F7E018276,
   0x82D185979060925B9D1B586965BC6C5A752551F9592E59655F805FDC62BC65FA,
   0x6A2A6B276BB4738B7FC189569D2C9D0E9EC45CA16C96837B51045C4B61B681C6,
   0x687672614E594FFA537860696E297A4F97F34E0B53164EEE4F554F3D4FA14F73,
   0x52A053EF5609590F5AC15BB65BE179D16687679C67B66B4C6CB3706B73C2798D,
   0x79BE7A3C7B8782B182DB8304837783EF83D387668AB256298CA88FE6904E971E,
   0x868A4FC45CE862117259753B81E582BD86FE8CC096C5991399D54ECB4F1A89E3,
   0x56DE584A58CA5EFB5FEB602A6094606261D0621262D065399B41666668B06D77,
   0x7070754C76867D7582A587F9958B968E8C9D51F152BE591654B35BB35D166168,
   0x69826DAF788D84CB88578A7293A79AB86D6C99A886D957A367FF86CE920E5283,
   0x568754045ED362E164B9683C68386BBB737278BA7A6B899A89D28D6B8F0390ED,
   0x95A3969497695B665CB3697D984D984E639B7B206A2B6A7F68B69C0D6F5F5272,
   0x559D607062EC6D3B6E076ED1845B89108F444E149C3953F6691B6A3A9784682A,
   0x515C7AC384B291DC938C565B9D286822830584317CA5520882C574E64E7E4F83,
   0x51A05BD2520A52D852E75DFB559A582A59E65B8C5B985BDB5E725E7960A3611F,
   0x616361BE63DB656267D1685368FA6B3E6B536C576F226F976F4574B0751876E3,
   0x770B7AFF7BA17C217DE97F367FF0809D8266839E89B38ACC8CAB908494519593,
   0x959195A2966597D3992882184E38542B5CB85DCC73A9764C773C5CA97FEB8D0B,
   0x96C19811985498584F014F0E5371559C566857FA59475B095BC45C905E0C5E7E,
   0x5FCC63EE673A65D765E2671F68CB68C46A5F5E306BC56C176C7D757F79485B63,
   0x7A007D005FBD898F8A188CB48D778ECC8F1D98E29A0E9B3C4E80507D51005993,
   0x5B9C622F628064EC6B3A72A0759179477FA987FB8ABC8B7063AC83CA97A05409,
   0x540355AB68546A588A70782767759ECD53745BA2811A865090064E184E454EC7,
   0x4F1153CA54385BAE5F1360256551673D6C426C726CE3707874037A767AAE7B08,
   0x7D1A7CFE7D6665E7725B53BB5C455DE862D262E063196E20865A8A318DDD92F8,
   0x6F0179A69B5A4EA84EAB4EAC4F9B4FA050D151477AF6517151F653545321537F,
   0x53EB55AC58835CE15F375F4A602F6050606D631F65596A4B6CC172C272ED77EF,
   0x80F881058208854E90F793E197FF99579A5A4EF051DD5C2D6681696D5C4066F2,
   0x6975738968507C8150C552E457475DFE932665A46B236B3D7434798179BD7B4B,
   0x7DCA82B983CC887F895F8B398FD191D1541F92804E5D503653E5533A72D77396,
   0x77E982E68EAF99C699C899D25177611A865E55B07A7A50765BD3904796854E32,
   0x6ADB91E75C515C4863987A9F6C9397748F617AAA718A96887C8268177E706851,
   0x936C52F2541B85AB8A137FA48ECD90E15366888879414FC250BE521151445553,
   0x572D73EA578B59515F625F8460756176616761A963B2643A656C666F68426E13,
   0x75667A3D7CFB7D4C7D997E4B7F6B830E834A86CD8A088A638B668EFD981A9D8F,
   0x82B88FCE9BE85287621F64836FC09699684150916B206C7A6F547A747D508840,
   0x8A2367084EF6503950265065517C5238526355A7570F58055ACC5EFA61B261F8,
   0x62F36372691C6A29727D72AC732E7814786F7D79770C80A9898B8B198CE28ED2,
   0x90639375967A98559A139E785143539F53B35E7B5F266E1B6E90738473FE7D43,
   0x82378A008AFA96504E4E500B53E4547C56FA59D15B645DF15EAB5F2762386545,
   0x67AF6E5672D07CCA88B480A180E183F0864E8A878DE8923796C798679F134E94,
   0x4E924F0D53485449543E5A2F5F8C5FA1609F68A76A8E745A78818A9E8AA48B77,
   0x91904E5E9BC94EA44F7C4FAF501950165149516C529F52B952FE539A53E35411,
   0x540E5589575157A2597D5B545B5D5B8F5DE55DE75DF75E785E835E9A5EB75F18,
   0x6052614C629762D863A7653B6602664366F4676D6821689769CB6C5F6D2A6D69,
   0x6E2F6E9D75327687786C7A3F7CE07D057D187D5E7DB18015800380AF80B18154,
   0x818F822A8352884C88618B1B8CA28CFC90CA91759271783F92FC95A4964D9805,
   0x99999AD89D3B525B52AB53F7540858D562F76FE08C6A8F5F9EB9514B523B544A,
   0x56FD7A4091779D609ED273446F09817075115FFD60DA9AA872DB8FBC6B649803,
   0x4ECA56F0576458BE5A5A606861C7660F6606683968B16DF775D57D3A826E9B42,
   0x4E9B4F5053C955065D6F5DE65DEE67FB6C99747378028A50939688DF57505EA7,
   0x632B50B550AC518D670054C9585E59BB5BB05F69624D63A1683D6B736E08707D,
   0x91C7728078157826796D658E7D3083DC88C18F09969B5264572867507F6A8CA1,
   0x51B45742962A583A698A80B454B25D0E57FC78959DFA4F5C524A548B643E6628,
   0x671467F57A847B567D22932F685C9BAD7B395319518A52375BDF62F664AE64E6,
   0x672D6BBA85A996D176909BD6634C93069BAB76BF66524E09509853C25C7160E8,
   0x64926563685F71E673CA75237B977E8286958B838CDB9178991065AC66AB6B8B,
   0x4ED54ED44F3A4F7F523A53F853F255E356DB58EB59CB59C959FF5B505C4D5E02,
   0x5E2B5FD7601D6307652F5B5C65AF65BD65E8679D6B626B7B6C0F7345794979C1,
   0x7CF87D197D2B80A2810281F389968A5E8A698A668A8C8AEE8CC78CDC96CC98FC,
   0x6B6F4E8B4F3C4F8D51505B575BFA6148630166426B216ECB6CBB723E74BD75D4,
   0x78C1793A800C803381EA84948F9E6C509E7F5F0F8B589D2B7AFA8EF85B8D96EB,
   0x4E0353F157F759315AC95BA460896E7F6F0675BE8CEA5B9F85007BE0507267F4,
   0x829D5C61854A7E1E820E51995C0463688D66659C716E793E7D1780058B1D8ECA,
   0x906E86C790AA501F52FA5C3A6753707C7235914C91C8932B82E55BC25F3160F9,
   0x4E3B53D65B88624B67316B8A72E973E07A2E816B8DA391529996511253D7546A,
   0x5BFF63886A397DAC970056DA53CE54685B975C315DDE4FEE610162FE6D3279C0,
   0x79CB7D427E4D7FD281ED821F8490884689728B908E748F2F9031914B916C96C6,
   0x919C4EC04F4F514553415F93620E67D46C416E0B73637E2691CD928353D45919,
   0x5BBF6DD1795D7E2E7C9B587E719F51FA88538FF04FCA5CFB662577AC7AE3821C,
   0x99FF51C65FAA65EC696F6B896DF36E966F6476FE7D145DE190759187980651E6,
   0x521D6240669166D96E1A5EB67DD27F7266F885AF85F78AF852A953D959735E8F,
   0x5F90605592E4966450B7511F52DD5320534753EC54E8554655315617596859BE,
   0x5A3C5BB55C065C0F5C115C1A5E845E8A5EE05F70627F628462DB638C63776607,
   0x660C662D6676677E68A26A1F6A356CBC6D886E096E58713C7126716775C77701,
   0x785D7901796579F07AE07B117CA77D39809683D6848B8549885D88F38A1F8A3C,
   0x8A548A738C618CDE91A49266937E9418969C97984E0A4E084E1E4E5751975270,
   0x57CE583458CC5B225E3860C564FE676167566D4472B675737A6384B88B7291B8,
   0x9320563157F498FE62ED690D6B9671ED7E548077827289E698DF87558FB15C3B,
   0x4F384FE14FB555075A205BDD5BE95FC3614E632F65B0664B68EE699B6D786DF1,
   0x753375B9771F795E79E67D3381E382AF85AA89AA8A3A8EAB8F9B903291DD9707,
   0x4EBA4EC15203587558EC5C0B751A5C3D814E8A0A8FC59663976D7B258ACF9808,
   0x916256F353A89017543957825E2563A86C34708A77617C8B7FE0887090429154,
   0x93109318968F745E9AC45D075D69657067A28DA896DB636E6749691983C59817,
   0x96C088FE6F84647A5BF84E16702C755D662F51C4523652E259D35F8160276210,
   0x653F6574661F667468F268166B636E057272751F76DB7CBE805658F088FD897F,
   0x8AA08A938ACB901D91929752975965897A0E810696BB5E2D60DC621A65A56614,
   0x679077F37A4D7C4D7E3E810A8CAC8D648DE18E5F78A9520762D963A564426298,
   0x8A2D7A837BC08AAC96EA7D76820C87494ED95148534353605BA35C025C165DDD,
   0x6226624764B0681368346CC96D456D1767D36F5C714E717D65CB7A7F7BAD7DDA,
   0x7E4A7FA8817A821B823985A68A6E8CCE8DF59078907792AD929195839BAE524D,
   0x55846F387136516879857E5581B37CCE564C58515CA863AA66FE66FD695A72D9,
   0x758F758E790E795679DF7C977D207D4486078A34963B90619F2050E7527553CC,
   0x53E2500955AA58EE594F723D5B8B5C64531D60E360F3635C6383633F63BB64CD,
   0x65E966F95DE369CD69FD6F1571E54E8975E976F87A937CDF7DCF7D9C80618349,
   0x8358846C84BC85FB88C58D709001906D9397971C9A1250CF5897618E81D38535,
   0x8D0890204FC3507452475373606F6349675F6E2C8DB3901F4FD75C5E8CCA65CF,
   0x7D9A53528896517663C35B585B6B5C0A640D6751905C4ED6591A592A6C708A51,
   0x553E581559A560F0625367C182356955964099C49A284F5358065BFE80105CB1,
   0x5E2F5F856020614B623466FF6CF06EDE80CE817F82D4888B8CB89000902E968A,
   0x9EDB9BDB4EE353F059277B2C918D984C9DF96EDD7027535355445B856258629E,
   0x62D36CA26FEF74228A1794386FC18AFE833851E786F853EA53E94F4690548FB0,
   0x596A81315DFD7AEA8FBF68DA8C3772F89C486A3D8AB04E3953585606576662C5,
   0x63A265E66B4E6DE16E5B70AD77ED7AEF7BAA7DBB803D80C686CB8A95935B56E3,
   0x58C75F3E65AD66966A806BB575378AC7502477E557305F1B6065667A6C6075F4,
   0x7A1A7F6E81F48718904599B37BC9755C7AF97B5184C4901079E97A9283365AE1,
   0x77404E2D4EF25B995FE062BD663C67F16CE8866B88778A3B914E92F399D06A17,
   0x7026732A82E784578CAF4E01514651CB558B5BF55E165E335E815F145F355F6B,
   0x5FB461F2631166A2671D6F6E7252753A773A80748139817887768ABF8ADC8D85,
   0x8DF3929A957798029CE552C5635776F467156C8873CD8CC393AE96736D25589C,
   0x690E69CC8FFD939A75DB901A585A680263B469FB4F436F2C67D88FBB85267DB4,
   0x9354693F6F70576A58F75B2C7D2C722A540A91E39DB44EAD4F4E505C50755243,
   0x8C9E544858245B9A5E1D5E955EAD5EF75F1F608C62B5633A63D068AF6C407887,
   0x798E7A0B7DE082478A028AE68E44901390B8912D91D89F0E6CE5645864E26575,
   0x6EF476847B1B906993D16EBA54F25FB964A48F4D8FED92445178586B59295C55,
   0x5E976DFB7E8F751C8CBC8EE2985B70B94F1D6BBF6FB1753096FB514E54105835,
   0x585759AC5C605F926597675C6E21767B83DF8CED901490FD934D7825783A52AA,
   0x5EA6571F597460125012515A51AC51CD520055105854585859575B955CF65D8B,
   0x60BC6295642D6771684368BC68DF76D76DD86E6F6D9B706F71C85F5375D87977,
   0x7B497B547B527CD67D7152308463856985E48A0E8B048C468E0F9003900F9419,
   0x9676982D9A3095D850CD52D5540C58025C0E61A7649E6D1E77B37AE580F48404,
   0x905392855CE09D07533F5F975FB36D9C7279776379BF7BE46BD272EC8AAD6803,
   0x6A6151F87A8169345C4A9CF682EB5BC59149701E56785C6F60C765666C8C8C5A,
   0x90419813545166C7920D594890A351854E4D51EA85998B0E7058637A934B6962,
   0x99B47E047577535769608EDF96E36C5D4E8C5C3C5F108FE953028CD180898679,
   0x5EFF65E54E73516559825C3F97EE4EFB598A5FCD8A8D6FE179B079625BE78471,
   0x732B71B15E745FF5637B649A71C37C984E435EFC4E4B57DC56A260A96FC37D0D,
   0x80FD813381BF8FB2899786A45DF4628A64AD898767776CE26D3E743678345A46,
   0x7F7582AD99AC4FF35EC362DD63926557676F76C3724C80CC80BA8F29914D500D,
   0x57F95A9268856973716472FD8CB758F28CE0966A9019877F79E477E784294F2F,
   0x5265535A62CD67CF6CCA767D7B947C95823685848FEB66DD6F2072067E1B83AB,
   0x99C19EA651FD7BB178727BB880877B486AE85E61808C75517560516B92626E8C,
   0x767A91979AEA4F107F70629C7B4F95A59CE9567A585986E496BC4F345224534A,
   0x53CD53DB5E06642C6591677F6C3E6C4E724872AF73ED75547E41822C85E98CA9,
   0x7BC491C67169981298EF633D6669756A76E478D0854386EE532A535154265983,
   0x5E875F7C60B26249627962AB65906BD46CCC75B276AE789179D87DCB7F7780A5,
   0x88AB8AB98CBB907F975E98DB6A0B7C3850995C3E5FAE67876BD8743577097F8E,
   0x9F3B67CA7A175339758B9AED5F66819D83F180985F3C5FC575627B46903C6867,
   0x59EB5A9B7D10767E8B2C4FF55F6A6A196C376F0274E2796888688A558C795EDF,
   0x63CF75C579D282D7932892F2849C86ED9C2D54C15F6C658C6D5C70158CA78CD3,
   0x983B654F74F64E0D4ED857E0592B5A665BCC51A85E035E9C60166276657765A7,
   0x666E6D6E72367B268150819A82998B5C8CA08CE68D74961C96444FAE64AB6B66,
   0x821E8461856A90E85C01695398A8847A85574F0F526F5FA95E45670D798F8179,
   0x890789866DF55F1762556CB84ECF72699B925206543B567458B361A4626E711A,
   0x596E7C897CDE7D1B96F06587805E4E194F75517558405E635E735F0A67C44E26,
   0x853D9589965B7C73980150FB58C1765678A7522577A585117B86504F59097247,
   0x7BC77DE88FBA8FD4904D4FBF52C95A295F0197AD4FDD821792EA570363556B69,
   0x752B88DC8F147A4252DF58936155620A66AE6BCD7C3F83E950234FF853055446,
   0x583159495B9D5CF05CEF5D295E9662B16367653E65B9670B6CD56CE170F97832,
   0x7E2B80DE82B3840C84EC870289128A2A8C4A90A692D298FD9CF39D6C4E4F4EA1,
   0x508D5256574A59A85E3D5FD85FD9623F66B4671B67D068D251927D2180AA81A8,
   0x8B008C8C8CBF927E96325420982C531750D5535C58A864B26734726777667A46,
   0x91E652C36CA16B8658005E4C5954672C7FFB51E176C6646978E89B549EBB57CB,
   0x59B96627679A6BCE54E969D95E55819C67959BAA67FE9C52685D4EA64FE353C8,
   0x62B9672B6CAB8FC44FAD7E6D9EBF4E0761626E806F2B85135473672A9B455DF3,
   0x7B955CAC5BC6871C6E4A84D17A14810859997C8D6C11772052D959227121725F,
   0x77DB97279D61690B5A7F5A1851A5540D547D660E76DF8FF792989CF459EA725D,
   0x6EC5514D68C97DBF7DEC97629EBA64786A21830259845B5F6BDB731B76F27DB2,
   0x80178499513267289ED976EE676252FF99055C24623B7C7E8CB0554F60B67D0B,
   0x958053014E5F51B6591C723A803691CE5F2577E253845F797D0485AC8A338E8D,
   0x975667F385AE9453610961086CB976528AED8F38552F4F51512A52C753CB5BA5,
   0x5E7D60A0618263D6670967DA6E676D8C733673377531795088D58A98904A9091,
   0x90F596C4878D59154E884F594E0E8A898F3F981050AD5E7C59965BB95EB863DA,
   0x63FA64C166DC694A69D86D0B6EB6719475287AAF7F8A8000844984C989818B21,
   0x8E0A9065967D990A617E62916B326C836D747FCC7FFC6DC07F8587BA88F86765,
   0x83B1983C96F76D1B7D61843D916A4E7153755D506B046FEB85CD862D89A75229,
   0x540F5C65674E68A87406748375E288CF88E191CC96E296785F8B73877ACB844E,
   0x63A0756552896D416E9C74097559786B7C9296867ADC9F8D4FB6616E65C5865C,
   0x4E864EAE50DA4E2151CC5BEE659968816DBC731F764277AD7A1C7CE7826F8AD2,
   0x907C91CF96759818529B7DD1502B539867976DCB71D0743381E88F2A96A39C57,
   0x9E9F746058416D997D2F985E4EE44F364F8B51B752B15DBA601C73B2793C82D3,
   0x923496B796F6970A9E979F6266A66B74521752A370C888C25EC9604B61906F23,
   0x71497C3E7DF4806F84EE9023932C54429B6F6AD370898CC28DEF973252B45A41,
   0x5ECA5F046717697C69946D6A6F0F726272FC7BED8001807E874B90CE516D9E93,
   0x7984808B93328AD6502D548C8A716B6A8CC4810760D167A09DF24E994E989C10,
   0x8A6B85C1856869006E7E78978155000000000000000000000000000000000000, 0, 0,
   0x000000005F0C4E104E154E2A4E314E364E3C4E3F4E424E564E584E824E858C6B,
   0x4E8A82125F0D4E8E4E9E4E9F4EA04EA24EB04EB34EB64ECE4ECD4EC44EC64EC2,
   0x4ED74EDE4EED4EDF4EF74F094F5A4F304F5B4F5D4F574F474F764F884F8F4F98,
   0x4F7B4F694F704F914F6F4F864F9651184FD44FDF4FCE4FD84FDB4FD14FDA4FD0,
   0x4FE44FE5501A50285014502A502550054F1C4FF650215029502C4FFE4FEF5011,
   0x5006504350476703505550505048505A5056506C50785080509A508550B450B2,
   0x50C950CA50B350C250D650DE50E550ED50E350EE50F950F55109510151025116,
   0x51155114511A5121513A5137513C513B513F51405152514C515451627AF85169,
   0x516A516E5180518256D8518C5189518F519151935195519651A451A651A251A9,
   0x51AA51AB51B351B151B251B051B551BD51C551C951DB51E0865551E951ED51F0,
   0x51F551FE5204520B5214520E5227522A522E52335239524F5244524B524C525E,
   0x5254526A527452695273527F527D528D529452925271528852918FA88FA752AC,
   0x52AD52BC52B552C152CD52D752DE52E352E698ED52E052F352F552F852F95306,
   0x53087538530D5310530F5315531A5323532F5331533353385340534653454E17,
   0x5349534D51D6535E5369536E5918537B53775382539653A053A653A553AE53B0,
   0x53B653C37C1296D953DF66FC71EE53EE53E853ED53FA5401543D5440542C542D,
   0x543C542E54365429541D544E548F5475548E545F5471547754705492547B5480,
   0x547654845490548654C754A254B854A554AC54C454C854A854AB54C254A454BE,
   0x54BC54D854E554E6550F551454FD54EE54ED54FA54E2553955405563554C552E,
   0x555C55455556555755385533555D5599558054AF558A559F557B557E5598559E,
   0x55AE557C558355A9558755A855DA55C555DF55C455DC55E455D4561455F75616,
   0x55FE55FD561B55F9564E565071DF5634563656325638566B5664562F566C566A,
   0x56865680568A56A05694568F56A556AE56B656B456C256BC56C156C356C056C8,
   0x56CE56D156D356D756EE56F9570056FF570457095708570B570D571357185716,
   0x55C7571C572657375738574E573B5740574F576957C057885761577F57895793,
   0x57A057B357A457AA57B057C357C657D457D257D3580A57D657E3580B5819581D,
   0x587258215862584B58706BC05852583D5879588558B9589F58AB58BA58DE58BB,
   0x58B858AE58C558D358D158D758D958D858E558DC58E458DF58EF58FA58F958FB,
   0x58FC58FD5902590A5910591B68A65925592C592D59325938593E7AD259555950,
   0x594E595A5958596259605967596C596959785981599D4F5E4FAB59A359B259C6,
   0x59E859DC598D59D959DA5A255A1F5A115A1C5A095A1A5A405A6C5A495A355A36,
   0x5A625A6A5A9A5ABC5ABE5ACB5AC25ABD5AE35AD75AE65AE95AD65AFA5AFB5B0C,
   0x5B0B5B165B325AD05B2A5B365B3E5B435B455B405B515B555B5A5B5B5B655B69,
   0x5B705B735B755B7865885B7A5B805B835BA65BB85BC35BC75BC95BD45BD05BE4,
   0x5BE65BE25BDE5BE55BEB5BF05BF65BF35C055C075C085C0D5C135C205C225C28,
   0x5C385C395C415C465C4E5C535C505C4F5B715C6C5C6E4E625C765C795C8C5C91,
   0x5C94599B5CAB5CBB5CB65CBC5CB75CC55CBE5CC75CD95CE95CFD5CFA5CED5D8C,
   0x5CEA5D0B5D155D175D5C5D1F5D1B5D115D145D225D1A5D195D185D4C5D525D4E,
   0x5D4B5D6C5D735D765D875D845D825DA25D9D5DAC5DAE5DBD5D905DB75DBC5DC9,
   0x5DCD5DD35DD25DD65DDB5DEB5DF25DF55E0B5E1A5E195E115E1B5E365E375E44,
   0x5E435E405E4E5E575E545E5F5E625E645E475E755E765E7A9EBC5E7F5EA05EC1,
   0x5EC25EC85ED05ECF5ED65EE35EDD5EDA5EDB5EE25EE15EE85EE95EEC5EF15EF3,
   0x5EF05EF45EF85EFE5F035F095F5D5F5C5F0B5F115F165F295F2D5F385F415F48,
   0x5F4C5F4E5F2F5F515F565F575F595F615F6D5F735F775F835F825F7F5F8A5F88,
   0x5F915F875F9E5F995F985FA05FA85FAD5FBC5FD65FFB5FE45FF85FF15FDD60B3,
   0x5FFF60216060601960106029600E6031601B6015602B6026600F603A605A6041,
   0x606A6077605F604A6046604D6063604360646042606C606B60596081608D60E7,
   0x6083609A6084609B60966097609260A7608B60E160B860E060D360B45FF060BD,
   0x60C660B560D8614D6115610660F660F7610060F460FA6103612160FB60F1610D,
   0x610E6147613E61286127614A613F613C612C6134613D61426144617361776158,
   0x6159615A616B6174616F61656171615F615D6153617561996196618761AC6194,
   0x619A618A619161AB61AE61CC61CA61C961F761C861C361C661BA61CB7F7961CD,
   0x61E661E361F661FA61F461FF61FD61FC61FE620062086209620D620C6214621B,
   0x621E6221622A622E6230623262336241624E625E6263625B62606268627C6282,
   0x6289627E62926293629662D46283629462D762D162BB62CF62FF62C664D462C8,
   0x62DC62CC62CA62C262C7629B62C9630C62EE62F163276302630862EF62F56350,
   0x633E634D641C634F6396638E638063AB637663A3638F6389639F63B5636B6369,
   0x63BE63E963C063C663E363C963D263F663C4641664346406641364266436651D,
   0x64176428640F6467646F6476644E652A6495649364A564A9648864BC64DA64D2,
   0x64C564C764BB64D864C264F164E7820964E064E162AC64E364EF652C64F664F4,
   0x64F264FA650064FD6518651C650565246523652B65346535653765366538754B,
   0x654865566555654D6558655E655D65726578658265838B8A659B659F65AB65B7,
   0x65C365C665C165C465CC65D265DB65D965E065E165F16772660A660365FB6773,
   0x663566366634661C664F664466496641665E665D666466676668665F66626670,
   0x66836688668E668966846698669D66C166B966C966BE66BC66C466B866D666DA,
   0x66E0663F66E666E966F066F566F7670F6716671E672667279738672E673F6736,
   0x6741673867376746675E67606759676367646789677067A9677C676A678C678B,
   0x67A667A1678567B767EF67B467EC67B367E967B867E467DE67DD67E267EE67B9,
   0x67CE67C667E76A9C681E684668296840684D6832684E68B3682B685968636877,
   0x687F689F688F68AD6894689D689B68836AAE68B9687468B568A068BA690F688D,
   0x687E690168CA690868D86922692668E1690C68CD68D468E768D5693669126904,
   0x68D768E3692568F968E068EF6928692A691A6923692168C669796977695C6978,
   0x696B6954697E696E69396974693D695969306961695E695D6981696A69B269AE,
   0x69D069BF69C169D369BE69CE5BE869CA69DD69BB69C369A76A2E699169A0699C,
   0x699569B469DE69E86A026A1B69FF6B0A69F969F269E76A0569B16A1E69ED6A14,
   0x69EB6A0A6A126AC16A236A136A446A0C6A726A366A786A476A626A596A666A48,
   0x6A386A226A906A8D6AA06A846AA26AA36A9786176ABB6AC36AC26AB86AB36AAC,
   0x6ADE6AD16ADF6AAA6ADA6AEA6AFB6B0586166AFA6B126B169B316B1F6B386B37,
   0x76DC6B3998EE6B476B436B496B506B596B546B5B6B5F6B616B786B796B7F6B80,
   0x6B846B836B8D6B986B956B9E6BA46BAA6BAB6BAF6BB26BB16BB36BB76BBC6BC6,
   0x6BCB6BD36BDF6BEC6BEB6BF36BEF9EBE6C086C136C146C1B6C246C236C5E6C55,
   0x6C626C6A6C826C8D6C9A6C816C9B6C7E6C686C736C926C906CC46CF16CD36CBD,
   0x6CD76CC56CDD6CAE6CB16CBE6CBA6CDB6CEF6CD96CEA6D1F884D6D366D2B6D3D,
   0x6D386D196D356D336D126D0C6D636D936D646D5A6D796D596D8E6D956FE46D85,
   0x6DF96E156E0A6DB56DC76DE66DB86DC66DEC6DDE6DCC6DE86DD26DC56DFA6DD9,
   0x6DE46DD56DEA6DEE6E2D6E6E6E2E6E196E726E5F6E3E6E236E6B6E2B6E766E4D,
   0x6E1F6E436E3A6E4E6E246EFF6E1D6E386E826EAA6E986EC96EB76ED36EBD6EAF,
   0x6EC46EB26ED46ED56E8F6EA56EC26E9F6F416F11704C6EEC6EF86EFE6F3F6EF2,
   0x6F316EEF6F326ECC6F3E6F136EF76F866F7A6F786F816F806F6F6F5B6FF36F6D,
   0x6F826F7C6F586F8E6F916FC26F666FB36FA36FA16FA46FB96FC66FAA6FDF6FD5,
   0x6FEC6FD46FD86FF16FEE6FDB7009700B6FFA70117001700F6FFE701B701A6F74,
   0x701D7018701F7030703E7032705170637099709270AF70F170AC70B870B370AE,
   0x70DF70CB70DD70D9710970FD711C711971657155718871667162714C7156716C,
   0x718F71FB7184719571A871AC71D771B971BE71D271C971D471CE71E071EC71E7,
   0x71F571FC71F971FF720D7210721B7228722D722C72307232723B723C723F7240,
   0x7246724B72587274727E7282728172877292729672A272A772B972B272C372C6,
   0x72C472CE72D272E272E072E172F972F7500F7317730A731C7316731D7334732F,
   0x73297325733E734E734F9ED87357736A7368737073787375737B737A73C873B3,
   0x73CE73BB73C073E573EE73DE74A27405746F742573F87432743A7455743F745F,
   0x74597441745C746974707463746A7476747E748B749E74A774CA74CF74D473F1,
   0x74E074E374E774E974EE74F274F074F174F874F7750475037505750C750E750D,
   0x75157513751E7526752C753C7544754D754A7549755B7546755A756975647567,
   0x756B756D75787576758675877574758A758975827594759A759D75A575A375C2,
   0x75B375C375B575BD75B875BC75B175CD75CA75D275D975E375DE75FE75FF75FC,
   0x760175F075FA75F275F3760B760D7609761F7627762076217622762476347630,
   0x763B764776487646765C76587661766276687669766A7667766C767076727676,
   0x7678767C768076837688768B768E769676937699769A76B076B476B876B976BA,
   0x76C276CD76D676D276DE76E176E576E776EA862F76FB77087707770477297724,
   0x771E77257726771B773777387747775A7768776B775B7765777F777E7779778E,
   0x778B779177A0779E77B077B677B977BF77BC77BD77BB77C777CD77D777DA77DC,
   0x77E377EE77FC780C781279267820792A7845788E78747886787C789A788C78A3,
   0x78B578AA78AF78D178C678CB78D478BE78BC78C578CA78EC78E778DA78FD78F4,
   0x7907791279117919792C792B794079607957795F795A79557953797A797F798A,
   0x799D79A79F4B79AA79AE79B379B979BA79C979D579E779EC79E179E37A087A0D,
   0x7A187A197A207A1F79807A317A3B7A3E7A377A437A577A497A617A627A699F9D,
   0x7A707A797A7D7A887A977A957A987A967AA97AC87AB07AB67AC57AC47ABF9083,
   0x7AC77ACA7ACD7ACF7AD57AD37AD97ADA7ADD7AE17AE27AE67AED7AF07B027B0F,
   0x7B0A7B067B337B187B197B1E7B357B287B367B507B7A7B047B4D7B0B7B4C7B45,
   0x7B757B657B747B677B707B717B6C7B6E7B9D7B987B9F7B8D7B9C7B9A7B8B7B92,
   0x7B8F7B5D7B997BCB7BC17BCC7BCF7BB47BC67BDD7BE97C117C147BE67BE57C60,
   0x7C007C077C137BF37BF77C177C0D7BF67C237C277C2A7C1F7C377C2B7C3D7C4C,
   0x7C437C547C4F7C407C507C587C5F7C647C567C657C6C7C757C837C907CA47CAD,
   0x7CA27CAB7CA17CA87CB37CB27CB17CAE7CB97CBD7CC07CC57CC27CD87CD27CDC,
   0x7CE29B3B7CEF7CF27CF47CF67CFA7D067D027D1C7D157D0A7D457D4B7D2E7D32,
   0x7D3F7D357D467D737D567D4E7D727D687D6E7D4F7D637D937D897D5B7D8F7D7D,
   0x7D9B7DBA7DAE7DA37DB57DC77DBD7DAB7E3D7DA27DAF7DDC7DB87D9F7DB07DD8,
   0x7DDD7DE47DDE7DFB7DF27DE17E057E0A7E237E217E127E317E1F7E097E0B7E22,
   0x7E467E667E3B7E357E397E437E377E327E3A7E677E5D7E567E5E7E597E5A7E79,
   0x7E6A7E697E7C7E7B7E837DD57E7D8FAE7E7F7E887E897E8C7E927E907E937E94,
   0x7E967E8E7E9B7E9C7F387F3A7F457F4C7F4D7F4E7F507F517F557F547F587F5F,
   0x7F607F687F697F677F787F827F867F837F887F877F8C7F947F9E7F9D7F9A7FA3,
   0x7FAF7FB27FB97FAE7FB67FB88B717FC57FC67FCA7FD57FD47FE17FE67FE97FF3,
   0x7FF998DC80068004800B801280188019801C80218028803F803B804A80468052,
   0x8058805A805F8062806880738072807080768079807D807F808480868085809B,
   0x8093809A80AD519080AC80DB80E580D980DD80C480DA80D6810980EF80F1811B,
   0x81298123812F814B968B8146813E8153815180FC8171816E8165816681748183,
   0x8188818A8180818281A0819581A481A3815F819381A981B081B581BE81B881BD,
   0x81C081C281BA81C981CD81D181D981D881C881DA81DF81E081E781FA81FB81FE,
   0x8201820282058207820A820D821082168229822B82388233824082598258825D,
   0x825A825F826482628268826A826B822E827182778278827E828D829282AB829F,
   0x82BB82AC82E182E382DF82D282F482F382FA8393830382FB82F982DE830682DC,
   0x830982D9833583348316833283318340833983508345832F832B831783188385,
   0x839A83AA839F83A283968323838E8387838A837C83B58373837583A0838983A8,
   0x83F4841383EB83CE83FD840383D8840B83C183F7840783E083F2840D84228420,
   0x83BD8438850683FB846D842A843C855A84848477846B84AD846E848284698446,
   0x842C846F8479843584CA846284B984BF849F84D984CD84BB84DA84D084C184C6,
   0x84D684A1852184FF84F485178518852C851F8515851484FC8540856385588548,
   0x85418602854B8555858085A485888591858A85A8856D8594859B85EA8587859C,
   0x8577857E859085C985BA85CF85B985D085D585DD85E585DC85F9860A8613860B,
   0x85FE85FA86068622861A8630863F864D4E558654865F86678671869386A386A9,
   0x86AA868B868C86B686AF86C486C686B086C9882386AB86D486DE86E986EC86DF,
   0x86DB86EF8712870687088700870386FB87118709870D86F9870A8734873F8737,
   0x873B87258729871A8760875F8778874C874E877487578768876E875987538763,
   0x876A880587A2879F878287AF87CB87BD87C087D096D687AB87C487B387C787C6,
   0x87BB87EF87F287E0880F880D87FE87F687F7880E87D288118816881588228821,
   0x8831883688398827883B8844884288528859885E8862886B8881887E889E8875,
   0x887D88B5887288828897889288AE889988A2888D88A488B088BF88B188C388C4,
   0x88D488D888D988DD88F9890288FC88F488E888F28904890C890A89138943891E,
   0x8925892A892B89418944893B89368938894C891D8960895E89668964896D896A,
   0x896F89748977897E89838988898A8993899889A189A989A689AC89AF89B289BA,
   0x89BD89BF89C089DA89DC89DD89E789F489F88A038A168A108A0C8A1B8A1D8A25,
   0x8A368A418A5B8A528A468A488A7C8A6D8A6C8A628A858A828A848AA88AA18A91,
   0x8AA58AA68A9A8AA38AC48ACD8AC28ADA8AEB8AF38AE78AE48AF18B148AE08AE2,
   0x8AF78ADE8ADB8B0C8B078B1A8AE18B168B108B178B208B3397AB8B268B2B8B3E,
   0x8B288B418B4C8B4F8B4E8B498B568B5B8B5A8B6B8B5F8B6C8B6F8B748B7D8B80,
   0x8B8C8B8E8B928B938B968B998B9A8C3A8C418C3F8C488C4C8C4E8C508C558C62,
   0x8C6C8C788C7A8C828C898C858C8A8C8D8C8E8C948C7C8C98621D8CAD8CAA8CBD,
   0x8CB28CB38CAE8CB68CC88CC18CE48CE38CDA8CFD8CFA8CFB8D048D058D0A8D07,
   0x8D0F8D0D8D109F4E8D138CCD8D148D168D678D6D8D718D738D818D998DC28DBE,
   0x8DBA8DCF8DDA8DD68DCC8DDB8DCB8DEA8DEB8DDF8DE38DFC8E088E098DFF8E1D,
   0x8E1E8E108E1F8E428E358E308E348E4A8E478E498E4C8E508E488E598E648E60,
   0x8E2A8E638E558E768E728E7C8E818E878E858E848E8B8E8A8E938E918E948E99,
   0x8EAA8EA18EAC8EB08EC68EB18EBE8EC58EC88ECB8EDB8EE38EFC8EFB8EEB8EFE,
   0x8F0A8F058F158F128F198F138F1C8F1F8F1B8F0C8F268F338F3B8F398F458F42,
   0x8F3E8F4C8F498F468F4E8F578F5C8F628F638F648F9C8F9F8FA38FAD8FAF8FB7,
   0x8FDA8FE58FE28FEA8FEF90878FF490058FF98FFA901190159021900D901E9016,
   0x900B90279036903590398FF8904F905090519052900E9049903E90569058905E,
   0x9068906F907696A890729082907D90819080908A9089908F90A890AF90B190B5,
   0x90E290E4624890DB91029112911991329130914A915691589163916591699173,
   0x9172918B9189918291A291AB91AF91AA91B591B491BA91C091C191C991CB91D0,
   0x91D691DF91E191DB91FC91F591F6921E91FF9214922C92159211925E92579245,
   0x9249926492489295923F924B9250929C92969293929B925A92CF92B992B792E9,
   0x930F92FA9344932E93199322931A9323933A9335933B935C9360937C936E9356,
   0x93B093AC93AD939493B993D693D793E893E593D893C393DD93D093C893E4941A,
   0x941494139403940794109436942B94359421943A944194529444945B94609462,
   0x945E946A9229947094759477947D945A947C947E9481947F95829587958A9594,
   0x95969598959995A095A895A795AD95BC95BB95B995BE95CA6FF695C395CD95CC,
   0x95D595D495D695DC95E195E595E296219628962E962F9642964C964F964B9677,
   0x965C965E965D965F96669672966C968D96989695969796AA96A796B196B296B0,
   0x96B496B696B896B996CE96CB96C996CD894D96DC970D96D596F9970497069708,
   0x9713970E9711970F971697199724972A97309739973D973E9744974697489742,
   0x9749975C976097649766976852D2976B977197799785977C9781977A9786978B,
   0x978F9790979C97A897A697A397B397B497C397C697C897CB97DC97ED9F4F97F2,
   0x7ADF97F697F5980F980C9838982498219837983D9846984F984B986B986F9870,
   0x98719874987398AA98AF98B198B698C498C398C698E998EB9903990999129914,
   0x99189921991D991E99249920992C992E993D993E9942994999459950994B9951,
   0x9952994C99559997999899A599AD99AE99BC99DF99DB99DD99D899D199ED99EE,
   0x99F199F299FB99F89A019A0F9A0599E29A199A2B9A379A459A429A409A439A3E,
   0x9A559A4D9A5B9A579A5F9A629A659A649A699A6B9A6A9AAD9AB09ABC9AC09ACF,
   0x9AD19AD39AD49ADE9ADF9AE29AE39AE69AEF9AEB9AEE9AF49AF19AF79AFB9B06,
   0x9B189B1A9B1F9B229B239B259B279B289B299B2A9B2E9B2F9B329B449B439B4F,
   0x9B4D9B4E9B519B589B749B939B839B919B969B979B9F9BA09BA89BB49BC09BCA,
   0x9BB99BC69BCF9BD19BD29BE39BE29BE49BD49BE19C3A9BF29BF19BF09C159C14,
   0x9C099C139C0C9C069C089C129C0A9C049C2E9C1B9C259C249C219C309C479C32,
   0x9C469C3E9C5A9C609C679C769C789CE79CEC9CF09D099D089CEB9D039D069D2A,
   0x9D269DAF9D239D1F9D449D159D129D419D3F9D3E9D469D489D5D9D5E9D649D51,
   0x9D509D599D729D899D879DAB9D6F9D7A9D9A9DA49DA99DB29DC49DC19DBB9DB8,
   0x9DBA9DC69DCF9DC29DD99DD39DF89DE69DED9DEF9DFD9E1A9E1B9E1E9E759E79,
   0x9E7D9E819E889E8B9E8C9E929E959E919E9D9EA59EA99EB89EAA9EAD97619ECC,
   0x9ECE9ECF9ED09ED49EDC9EDE9EDD9EE09EE59EE89EEF9EF49EF69EF79EF99EFB,
   0x9EFC9EFD9F079F0876B79F159F219F2C9F3E9F4A9F529F549F639F5F9F609F61,
   0x9F669F679F6C9F6A9F779F729F769F959F9C9FA0582F69C79059746451DC7199, 0, 0, 0, 0, 0, 0, 0, 0, 0, 0,
   0, 0, 0, 0, 0, 0, 0, 0, 0, 0, 0, 0, 0, 0, 0, 0, 0, 0, 0,
   0x7E8A891C9348928884DC4FC970BB663168C892F966FB5F454E284EE14EFC4F00,
   0x4F034F394F564F924F8A4F9A4F944FCD504050224FFF501E5046507050425094,
   0x50F450D8514A5164519D51BE51EC5215529C52A652C052DB5300530753245372,
   0x539353B253DDFA0E549C548A54A954FF55865759576557AC57C857C7FA0FFA10,
   0x589E58B2590B5953595B595D596359A459BA5B565BC0752F5BD85BEC5C1E5CA6,
   0x5CBA5CF55D275D53FA115D425D6D5DB85DB95DD05F215F345F675FB75FDE605D,
   0x6085608A60DE60D5612060F26111613761306198621362A663F56460649D64CE,
   0x654E66006615663B6609662E661E6624666566576659FA126673669966A066B2,
   0x66BF66FA670EF929676667BB685267C06801684468CFFA136968FA14699869E2,
   0x6A306A6B6A466A736A7E6AE26AE46BD66C3F6C5C6C866C6F6CDA6D046D876D6F,
   0x6D966DAC6DCF6DF86DF26DFC6E396E5C6E276E3C6EBF6F886FB56FF570057007,
   0x7028708570AB710F7104715C71467147FA1571C171FE72B172BE7324FA167377,
   0x73BD73C973D673E373D2740773F57426742A7429742E74627489749F7501756F,
   0x7682769C769E769B76A6FA17774652AF7821784E7864787A7930FA18FA19FA1A,
   0x7994FA1B799B7AD17AE7FA1C7AEB7B9EFA1D7D487D5C7DB77DA07DD67E527F47,
   0x7FA1FA1E83018362837F83C783F6844884B485538559856BFA1F85B0FA20FA21,
   0x880788F58A128A378A798AA78ABE8ADFFA228AF68B538B7F8CF08CF48D128D76,
   0xFA238ECFFA24FA25906790DEFA269115912791DA91D791DE91ED91EE91E491E5,
   0x92069210920A923A9240923C924E925992519239926792A79277927892E792D7,
   0x92D992D0FA2792D592E092D39325932192FBFA28931E92FF931D930293709357,
   0x93A493C693DE93F89431944594489592F9DCFA29969D96AF9733973B9743974D,
   0x974F9751975598579865FA2AFA2B9927FA2C999E9A4E9AD99ADC9B759B729B8F,
   0x9BB19BBB9C009D709D6BFA2D9E199ED100000000217021712172217321742175,
   0x2176217721782179FFE2FFE4FF07FF0200000000000000000000000000000000, 0, 0, 0, 0, 0, 0, 0, 0, 0, 0,
   0, 0, 0, 0, 0, 0, 0, 0, 0, 0, 0, 0, 0, 0, 0, 0, 0, 0, 0, 0, 0, 0, 0, 0, 0, 0, 0, 0, 0, 0, 0, 0,
   0, 0, 0, 0, 0, 0, 0, 0, 0, 0, 0, 0, 0, 0, 0, 0, 0, 0, 0, 0, 0, 0, 0, 0, 0, 0, 0, 0, 0, 0, 0, 0,
   0, 0, 0, 0, 0, 0, 0, 0, 0, 0, 0, 0, 0, 0, 0, 0, 0, 0, 0, 0, 0, 0, 0, 0, 0, 0, 0, 0, 0, 0, 0, 0,
   0, 0, 0, 0, 0, 0, 0, 0, 0, 0, 0, 0, 0, 0, 0, 0, 0, 0, 0, 0, 0, 0,
   0x0000000000000000000000000000000000000000000000002170217121722173,
   0x2174217521762177217821792160216121622163216421652166216721682169,
   0xFFE2FFE4FF07FF0232312116212122357E8A891C9348928884DC4FC970BB6631,
   0x68C892F966FB5F454E284EE14EFC4F004F034F394F564F924F8A4F9A4F944FCD,
   0x504050224FFF501E504650705042509450F450D8514A5164519D51BE51EC5215,
   0x529C52A652C052DB5300530753245372539353B253DDFA0E549C548A54A954FF,
   0x55865759576557AC57C857C7FA0FFA10589E58B2590B5953595B595D596359A4,
   0x59BA5B565BC0752F5BD85BEC5C1E5CA65CBA5CF55D275D53FA115D425D6D5DB8,
   0x5DB95DD05F215F345F675FB75FDE605D6085608A60DE60D5612060F261116137,
   0x61306198621362A663F56460649D64CE654E66006615663B6609662E661E6624,
   0x666566576659FA126673669966A066B266BF66FA670EF929676667BB685267C0,
   0x6801684468CFFA136968FA14699869E26A306A6B6A466A736A7E6AE26AE46BD6,
   0x6C3F6C5C6C866C6F6CDA6D046D876D6F6D966DAC6DCF6DF86DF26DFC6E396E5C,
   0x6E276E3C6EBF6F886FB56FF5700570077028708570AB710F7104715C71467147,
   0xFA1571C171FE72B172BE7324FA16737773BD73C973D673E373D2740773F57426,
   0x742A7429742E74627489749F7501756F7682769C769E769B76A6FA17774652AF,
   0x7821784E7864787A7930FA18FA19FA1A7994FA1B799B7AD17AE7FA1C7AEB7B9E,
   0xFA1D7D487D5C7DB77DA07DD67E527F477FA1FA1E83018362837F83C783F68448,
   0x84B485538559856BFA1F85B0FA20FA21880788F58A128A378A798AA78ABE8ADF,
   0xFA228AF68B538B7F8CF08CF48D128D76FA238ECFFA24FA25906790DEFA269115,
   0x912791DA91D791DE91ED91EE91E491E592069210920A923A9240923C924E9259,
   0x92519239926792A79277927892E792D792D992D0FA2792D592E092D393259321,
   0x92FBFA28931E92FF931D93029370935793A493C693DE93F89431944594489592,
   0xF9DCFA29969D96AF9733973B9743974D974F9751975598579865FA2AFA2B9927,
   0xFA2C999E9A4E9AD99ADC9B759B729B8F9BB19BBB9C009D709D6BFA2D9E199ED1, 0, 0, 0, 0, 0, 0, 0, 0, 0, 0,
   0]

end JavaFormat.Charset.Table
